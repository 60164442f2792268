import TrackingPlan.CommandLine.Session
import TrackingPlan.Proofs.Files.Tree
import TrackingPlan.Proofs.Generator.Use
import TrackingPlan.Proofs.Registry
import TrackingPlan.Proofs.Schema.Loading
import TrackingPlan.Proofs.Settings.Origin

/-!
# What a session leaves

A session can fail at every stage: the arguments, the configuration, the generator, the document,
the schema, the generation of the code, the writing of the file. The file is written after all
of them, so a session that fails has changed no file. One that succeeds has come through all
stages, and it has written the code to one place, unless it prints it.

Key definitions: `CommandLine.Course`, `CommandLine.filename`.
Key theorems: `CommandLine.generateCode_cases`, `CommandLine.Course.outputFilename_eq`,
`CommandLine.Course.exists_afterwords?`, `CommandLine.deliver_cases`,
`CommandLine.runArguments_files`.
-/

namespace TrackingPlan
namespace CommandLine

open Steps

variable {a : Arguments} {files after : FileTree}

/-! ### The arguments -/

theorem needed_eq_ok {α : Type} {x : Option α} {value : α} :
    needed x = .ok value ↔ x = some value := by
  cases x <;> simp [needed]

/-- Arguments that can work: the language is supported, no file name goes with printing, the time
is positive, and there is a directory to write to. -/
theorem checkArguments_eq_ok {language : String} : checkArguments a files = .ok language ↔
    a.language = some language ∧ Registry.builtin.supports language ∧
      ¬ (a.toStdout ∧ a.outputFilename ≠ "") ∧
      (∃ timeout, a.timeout = some timeout ∧ ¬ timeout.atMostZero) ∧
      (¬ a.toStdout → ∃ path, a.outputPath = some path ∧ checkOutputPath path files = .ok ()) := by
  unfold checkArguments
  have houtput (name : String) :
      (if !a.toStdout then do checkOutputPath (← needed a.outputPath) files; pure name
        else pure name : Except SessionError String) = .ok language ↔
        name = language ∧ (¬ a.toStdout →
          ∃ path, a.outputPath = some path ∧ checkOutputPath path files = .ok ()) := by
    cases a.toStdout with
    | true => simp
    | false =>
      simp only [Bool.not_false, if_true, bind_eq_ok, needed_eq_ok, pure_eq_ok]
      constructor
      · rintro ⟨path, hpath, _, hcheck, rfl⟩
        exact ⟨rfl, fun _ => ⟨path, hpath, hcheck⟩⟩
      · rintro ⟨rfl, hdirectory⟩
        obtain ⟨path, hpath, hcheck⟩ := hdirectory Bool.false_ne_true
        exact ⟨path, hpath, (), hcheck, rfl⟩
  simp only [bind_eq_ok, needed_eq_ok, refuse_eq_ok, houtput]
  constructor
  · rintro ⟨name, hname, hsupported, hprinted, timeout, htimeout, hpositive, rfl, hdirectory⟩
    refine ⟨hname, by simpa using hsupported, by simpa using hprinted, ?_, hdirectory⟩
    exact ⟨timeout, htimeout, hpositive⟩
  · rintro ⟨hname, hsupported, hprinted, ⟨timeout, htimeout, hpositive⟩, hdirectory⟩
    refine ⟨language, hname, by simpa using hsupported, by simpa using hprinted, timeout, htimeout,
      hpositive, rfl, hdirectory⟩

theorem nodup_overrides (a : Arguments) : (overrides a).keys.Nodup := by
  have hname (c : Prop) [Decidable c] (key : String) (v : Json) :
      (Assoc.keys (if c then [] else [(key, v)])).Sublist [key] := by
    by_cases h : c <;> simp [h, Assoc.keys]
  have hflag (c : Prop) [Decidable c] (key : String) (v : Json) :
      (Assoc.keys (if c then [(key, v)] else [])).Sublist [key] := by
    by_cases h : c <;> simp [h, Assoc.keys]
  have hall : (overrides a).keys.Sublist (["output_class_name"] ++ ["output_file"] ++
      ["include_schema_metadata"] ++ ["require_publish_event"] ++ ["strict_identifiers"]) := by
    unfold overrides Assoc.keys
    simp only [List.map_append]
    exact ((((hname _ _ _).append (hname _ _ _)).append (hflag _ _ _)).append
      (hflag _ _ _)).append (hflag _ _ _)
  exact hall.nodup (by decide)

theorem get?_overrides_outputFile (a : Arguments) : (overrides a).get? "output_file" =
    if a.outputFilename = "" then none else some (.str a.outputFilename) := by
  have hother (c : Prop) [Decidable c] {key : String} (hkey : "output_file" ≠ key) (v : Json) :
      Assoc.get? (if c then [] else [(key, v)]) "output_file" = none ∧
        Assoc.get? (if c then [(key, v)] else []) "output_file" = none := by
    by_cases h : c <;> simp [h, Assoc.get?_cons, Assoc.get?_nil, hkey]
  unfold overrides
  simp only [Assoc.get?_append]
  rw [(hother _ (by decide) _).1, (hother _ (by decide) _).2, (hother _ (by decide) _).2,
    (hother _ (by decide) _).2]
  by_cases hname : a.outputFilename = ""
  · simp [hname, Assoc.get?_nil]
  · simp [hname, Assoc.get?_cons]

theorem isWritable_overrides (a : Arguments) : (Json.obj (overrides a)).IsWritable := by
  have hname (c : Prop) [Decidable c] (key s : String) :
      ∀ p ∈ if c then [] else [(key, Json.str s)], p.2.IsWritable := by
    by_cases h : c <;> simp [h, Json.IsWritable, Json.longestInteger]
  have hflag (c : Prop) [Decidable c] (key : String) (b : Bool) :
      ∀ p ∈ if c then [(key, Json.bool b)] else [], p.2.IsWritable := by
    by_cases h : c <;> simp [h, Json.IsWritable, Json.longestInteger]
  rw [Json.isWritable_obj_iff]
  unfold overrides
  simp only [List.forall_mem_append]
  exact ⟨⟨⟨⟨hname _ _ _, hname _ _ _⟩, hflag _ _ _⟩, hflag _ _ _⟩, hflag _ _ _⟩

/-! ### Writing the code -/

theorem writeCode_eq_ok {code directory name : String} {path : PathName} :
    writeCode files code directory name = .ok (path, after) ↔
      files.isDirectory (PathName.ofString directory) = .ok true ∧
        path = (PathName.ofString directory).join (PathName.ofString name) ∧
        files.write path code.toUTF8 = .ok after := by
  unfold writeCode
  dsimp only
  generalize code.toUTF8 = data
  cases files.isDirectory (PathName.ofString directory) with
  | error e => simp
  | ok there =>
    cases there with
    | false => simp
    | true =>
      generalize (PathName.ofString directory).join (PathName.ofString name) = target
      cases hwrite : files.write target data with
      | error fault =>
        have hnone : ¬ (path = target ∧ files.write path data = .ok after) := by
          rintro ⟨rfl, h⟩
          exact nomatch hwrite.symm.trans h
        cases fault <;> simpa using hnone
      | ok written =>
        simp only [Except.ok.injEq, Prod.mk.injEq, true_and]
        constructor
        · rintro ⟨rfl, rfl⟩
          exact ⟨rfl, hwrite⟩
        · rintro ⟨rfl, h⟩
          exact ⟨rfl, Except.ok.inj (hwrite.symm.trans h)⟩

/-- How the code of a session is written. -/
theorem writeOutput_eq_ok {name : Json} {code : String} {path : PathName} :
    writeOutput a files name code = .ok (path, after) ↔
      ∃ directory text, a.outputPath = some directory ∧ name = .str text ∧
        writeCode files code directory text = .ok (path, after) := by
  unfold writeOutput
  simp only [bind_eq_ok, needed_eq_ok]
  cases name with
  | str text => simp
  | _ => simp

/-- **What the code of a session leaves**: nothing, when it is printed or cannot be written, and
otherwise the file that it was written to. -/
theorem deliver_cases (a : Arguments) (files : FileTree) (target : Target) (name : Json)
    {output : Output} (hrest : ∃ rest, afterwords? a output = some rest) (log : List LogLine)
    (requests : List TrackingPlan.Request) :
    let report := deliver a files target name output log requests
    (report.exit = 0 ∨ report.exit = 1) ∧
    (report.exit = 1 ∨ a.toStdout → report.files = files) ∧
    (report.exit = 0 → a.toStdout = false → ∃ path,
      writeOutput a files name output.code = .ok (path, report.files)) := by
  intro report
  have hconclude (files : FileTree) (announcement : Printed) :
      (conclude a files announcement output log requests).exit = 0 ∧
        (conclude a files announcement output log requests).files = files := by
    obtain ⟨rest, hrest⟩ := hrest
    simp only [conclude, hrest, and_self]
  cases hprinted : a.toStdout with
  | true =>
    have hreport : report.exit = 0 ∧ report.files = files := by
      simp [report, deliver, hprinted, hconclude]
    refine ⟨.inl hreport.1, fun _ => hreport.2, fun _ h => nomatch h⟩
  | false =>
    cases hwrite : writeOutput a files name output.code with
    | error e =>
      have hreport : report.exit = 1 ∧ report.files = files := by
        simp [report, deliver, hprinted, hwrite, Report.failed]
      refine ⟨.inr hreport.1, fun _ => hreport.2, fun h => ?_⟩
      exact absurd (h.symm.trans hreport.1) (by decide)
    | ok written =>
      have hreport : report.exit = 0 ∧ report.files = written.2 := by
        simp [report, deliver, hprinted, hwrite, hconclude]
      refine ⟨.inl hreport.1, fun h => ?_, fun _ _ => ⟨written.1, ?_⟩⟩
      · exact absurd (h.resolve_right Bool.false_ne_true) (by rw [hreport.1]; decide)
      · rw [hreport.2]

section Depth

variable [Depths] {reply : Reply}

/-- The course of a session that comes to code: what each stage has given to the next one. -/
structure Course (a : Arguments) (files : FileTree) (reply : Reply) where
  target : Target
  inFile : Assoc Json
  settings : Settings
  generator : Generator
  document : Json
  schema : Schema
  output : Output
  language : ∃ name, a.language = some name ∧ Registry.builtin.resolve name = .ok target.name
  read : Settings.fileMembers files a.config = .ok inFile
  configured : Settings.forLanguage files target.name (overrides a) a.config = .ok settings
  created : Generator.create target settings = .ok generator
  fetched : (fetchDocument a files reply).1 = .ok document
  loaded : (Document.value document).load = .ok schema
  generated : (generator.run schema).1 = .success output

/-! ### The stages before the code -/

/-- The configuration of a session is that of the language under the arguments and the file. -/
theorem forLanguage_of_sessionSettings {name : String} {settings : Settings} {log : List LogLine}
    (h : sessionSettings a name files = .ok (settings, log)) :
    ∃ language, Registry.builtin.resolve name = .ok language ∧
      Settings.forLanguage files language (overrides a) a.config = .ok settings := by
  simp only [sessionSettings, bind_eq_ok, mapError_eq_ok, pure_eq_ok] at h
  obtain ⟨language, hlanguage, settings', hsettings, warnings, -, heq⟩ := h
  obtain ⟨rfl, -⟩ := Prod.mk.inj heq
  exact ⟨language, hlanguage, hsettings⟩

theorem prepare_eq_ok {p : Preparation} (h : prepare a files = .ok p) :
    a.language = some p.language ∧ ∃ language, Registry.builtin.resolve p.language = .ok language ∧
      Settings.forLanguage files language (overrides a) a.config = .ok p.settings := by
  simp only [prepare, bind_eq_ok, pure_eq_ok] at h
  obtain ⟨language, hcheck, ⟨settings, log⟩, hsettings, rfl⟩ := h
  exact ⟨(checkArguments_eq_ok.mp hcheck).1, forLanguage_of_sessionSettings hsettings⟩

/-- **A session that writes code fails without a change, or it comes to code.** -/
theorem generateCode_cases (a : Arguments) (files : FileTree) (reply : Reply) :
    (generateCode a files reply).exit = 1 ∧ (generateCode a files reply).files = files ∨
      ∃ (c : Course a files reply) (log : List LogLine) (requests : List TrackingPlan.Request),
        generateCode a files reply =
          deliver a files c.generator.target c.generator.outputFilename c.output log requests := by
  unfold generateCode
  cases hprepare : prepare a files with
  | error e => exact .inl ⟨rfl, rfl⟩
  | ok p =>
    obtain ⟨hlanguage, key, hresolve, hsettings⟩ := prepare_eq_ok hprepare
    dsimp only
    cases hcreate : Registry.builtin.create files p.language (.complete p.settings) with
    | error e => exact .inl ⟨rfl, rfl⟩
    | ok g =>
      dsimp only
      cases hfetch : fetchDocument a files reply with
      | mk result requests =>
        cases result with
        | error e => exact .inl ⟨rfl, rfl⟩
        | ok document =>
          dsimp only
          cases hload : (Document.value document).load with
          | error e => exact .inl ⟨rfl, rfl⟩
          | ok schema =>
            dsimp only
            cases hrun : (g.run schema).1 with
            | failure message cause => exact .inl ⟨rfl, rfl⟩
            | success output =>
              obtain ⟨target, settings, htarget, hcomplete, hgenerator⟩ :=
                Registry.builtin_create_eq_ok hcreate
              obtain rfl : key = target.name := Except.ok.inj (hresolve.symm.trans htarget)
              obtain rfl : p.settings = settings := Except.ok.inj hcomplete
              obtain ⟨inFile, hread⟩ := Settings.exists_fileMembers hsettings
              have hfetched : (fetchDocument a files reply).1 = .ok document := by rw [hfetch]
              exact .inr ⟨⟨target, inFile, p.settings, g, document, schema, output,
                ⟨p.language, hlanguage, hresolve⟩, hread, hsettings, hgenerator, hfetched, hload,
                hrun⟩, _, _, rfl⟩

/-! ### The name of the file -/

/-- The name of the file to write: the one of the command line, else the one of the configuration
file, else that of the language. A name that counts as not set is none. -/
def filename (a : Arguments) (inFile : Assoc Json) (target : Target) : Json :=
  if a.outputFilename ≠ "" then .str a.outputFilename
  else match inFile.get? "output_file" with
    | some name => if name.isTruthy then name else .str target.filename
    | none => .str target.filename

/-- **The generator of a session names the file that the session is to write.** -/
theorem Course.outputFilename_eq (c : Course a files reply) :
    c.generator.outputFilename = filename a c.inFile c.target := by
  have htarget : c.generator.target = c.target := Generator.target_of_create c.created
  have hsettings : c.generator.settings = c.settings := Generator.settings_of_create c.created
  have hvalue : c.settings.entries.get? "output_file" = Settings.firstOf [overrides a, c.inFile,
      Settings.languageDefaults c.target.name, Settings.default.entries] "output_file" :=
    Settings.get?_forLanguage c.read (nodup_overrides a) c.configured (by decide) (by decide)
      (by decide)
  obtain ⟨v, hdefault, hv⟩ : ∃ v, Settings.firstOf [Settings.languageDefaults c.target.name,
      Settings.default.entries] "output_file" = some v ∧
        (if v.isTruthy then v else .str c.target.filename) = .str c.target.filename := by
    cases c.target with
    | plain => exact ⟨.null, rfl, rfl⟩
    | kotlin => exact ⟨_, rfl, rfl⟩
    | python => exact ⟨_, rfl, rfl⟩
  have hconfigured : c.settings.get "output_file" = (((overrides a).get? "output_file").or
      ((c.inFile.get? "output_file").or (some v))).getD .null := by
    show (c.settings.entries.get? "output_file").getD .null = _
    rw [hvalue, ← hdefault]
    simp only [Settings.firstOf, List.findSome?_cons]
    cases (overrides a).get? "output_file" <;> cases c.inFile.get? "output_file" <;> rfl
  unfold Generator.outputFilename filename
  dsimp only
  rw [hsettings, htarget, hconfigured, get?_overrides_outputFile]
  by_cases hname : a.outputFilename = ""
  · rw [if_pos hname, if_neg (not_not.mpr hname)]
    cases c.inFile.get? "output_file" with
    | none => exact hv
    | some w => rfl
  · have htruthy : (Json.str a.outputFilename).isTruthy := by simpa [Json.isTruthy] using hname
    rw [if_neg hname, if_pos hname]
    exact if_pos htruthy

/-! ### What is said after the code -/

/-- A setting of a session can be shown, for a file is not read with longer integers. -/
theorem Course.exists_display? (c : Course a files reply) {name : String}
    (hname : name ∈ Settings.names) (hconventions : name ≠ "conventions")
    (hlanguage : name ≠ "language_config") :
    ∃ text, (c.settings.get name).display? = some text := by
  have hvalue := Settings.get?_forLanguage c.read (nodup_overrides a) c.configured hname
    hconventions hlanguage
  have hsources : ∀ source ∈ [overrides a, c.inFile, Settings.languageDefaults c.target.name,
      Settings.default.entries], (Json.obj source).IsWritable := by
    have hdefaults : (Json.obj (Settings.languageDefaults c.target.name)).IsWritable := by
      cases c.target <;> decide
    simp only [List.forall_mem_cons]
    exact ⟨isWritable_overrides a, Settings.isWritable_of_fileMembers c.read, hdefaults, by decide,
      fun _ h => absurd h List.not_mem_nil⟩
  refine Json.exists_display? ?_
  unfold Settings.get Json.member
  cases hget : c.settings.entries.get? name with
  | none => exact Nat.zero_le _
  | some v =>
    obtain ⟨source, hsource, hv⟩ := List.exists_of_findSome?_eq_some (hvalue.symm.trans hget)
    exact Json.isWritable_obj_iff.mp (hsources source hsource) _ (Assoc.mem_of_get? hv)

/-- All that is to be said after the code can be written. -/
theorem Course.exists_afterwords? (c : Course a files reply) :
    ∃ rest, afterwords? a c.output = some rest := by
  obtain ⟨warnings, code, -, hcode, houtput⟩ := Generator.run_eq_success.mp c.generated
  obtain ⟨source, hsource, -⟩ := Generator.generate_eq_ok.mp hcode
  obtain ⟨_, _, -, -, hversion, -, -⟩ := Schema.toSource_eq_ok.mp hsource
  obtain ⟨className, hclassName⟩ : ∃ text,
      (c.settings.get "output_class_name").display? = some text :=
    c.exists_display? (by decide) (by decide) (by decide)
  obtain ⟨metadata, hmetadata⟩ : ∃ text,
      (c.settings.get "include_schema_metadata").display? = some text :=
    c.exists_display? (by decide) (by decide) (by decide)
  have hsettings : c.generator.settings = c.settings := Generator.settings_of_create c.created
  unfold afterwords?
  split
  · rw [houtput, metadataTable?]
    simp only [Metadata.of, hsettings, hclassName, hmetadata,
      integerText?_eq_some.mpr ⟨hversion, rfl⟩]
    exact ⟨_, rfl⟩
  · exact ⟨_, rfl⟩

/-! ### A whole session -/

/-- **A session leaves exit code 0 or 1.** One that fails, prints its code or lists the languages
changes no file. Any other one has come to code for its document under its configuration, and it
has written this code to one place: the output directory with the name of the file. -/
theorem runArguments_files {args : List String} (haccepted : parseArguments args = .accepted a)
    (files : FileTree) (reply : Reply) :
    let report := runArguments args files reply
    (report.exit = 0 ∨ report.exit = 1) ∧
    (report.exit = 1 ∨ a.toStdout ∨ a.listLanguages → report.files = files) ∧
    (report.exit = 0 → a.toStdout = false → a.listLanguages = false →
      ∃ (c : Course a files reply) (directory name : String) (place : List String),
        a.outputPath = some directory ∧ filename a c.inFile c.target = .str name ∧
        files.locate ((PathName.ofString directory).join (PathName.ofString name)) = .ok place ∧
        report.files.contentAt? place = some c.output.code.toUTF8 ∧
        (∀ other, other ≠ place → report.files.contentAt? other = files.contentAt? other) ∧
        report.files.directories = files.directories) := by
  intro report
  have hrun : report = run a files reply := by simp only [report, runArguments, haccepted]
  cases hlist : a.listLanguages with
  | true =>
    have hreport : report.exit = 0 ∧ report.files = files := by
      simp [hrun, run, hlist]
    exact ⟨.inl hreport.1, fun _ => hreport.2, fun _ _ h => nomatch h⟩
  | false =>
    have hgenerate : report = generateCode a files reply := by simp [hrun, run, hlist]
    rcases generateCode_cases a files reply with ⟨hexit, hfiles⟩ | ⟨c, log, requests, hcode⟩
    · rw [hgenerate]
      refine ⟨.inr hexit, fun _ => hfiles, fun h => ?_⟩
      exact absurd (h.symm.trans hexit) (by decide)
    · rw [hgenerate, hcode]
      obtain ⟨hexit, hkept, hwritten⟩ := deliver_cases a files c.generator.target
        c.generator.outputFilename c.exists_afterwords? log requests
      refine ⟨hexit, fun h => hkept ?_, fun hzero hprinted _ => ?_⟩
      · rcases h with h | h | h
        · exact .inl h
        · exact .inr h
        · exact nomatch h
      · obtain ⟨path, hpath⟩ := hwritten hzero hprinted
        obtain ⟨directory, name, hdirectory, hname, hwrite⟩ := writeOutput_eq_ok.mp hpath
        obtain ⟨-, rfl, hfile⟩ := writeCode_eq_ok.mp hwrite
        obtain ⟨place, hplace, hcontent, hothers, hdirectories⟩ := FileTree.place_of_write hfile
        exact ⟨c, directory, name, place, hdirectory, c.outputFilename_eq ▸ hname, hplace, hcontent,
          hothers, hdirectories⟩

end Depth

/-- A schema, a configuration that names the file to write, and a directory for it. -/
def shopFiles : FileTree where
  files := [
    (["shop.json"], ("\x7b\"projectId\": \"shop\", \"versionNumber\": 3, " ++
      "\"events\": [\x7b\"id\": 1, \"name\": \"Open\"\x7d]\x7d").toUTF8),
    (["plan.json"], "\x7b\"output_file\": \"shop.py\"\x7d".toUTF8)]
  directories := [["out"]]

/-- The arguments of a session for the schema under the configuration. -/
def shopArguments : Arguments where
  schemaFile := "shop.json"
  config := "plan.json"
  language := some "PY"
  outputPath := some "out"

theorem shop_accepted : parseArguments ["-l=PY", "--schema", "shop.json", "--config=plan.json",
    "--output-path", "out"] = .accepted shopArguments := by
  decide +kernel

/-- The code goes to the file that the configuration names, and the other files stay. -/
theorem runArguments_files_configured :
    let _ : Depths := .uniform 3
    let report := runArguments ["-l=PY", "--schema", "shop.json", "--config=plan.json",
      "--output-path", "out"] shopFiles .unreachable
    report.exit = 0 ∧ ∃ c : Course shopArguments shopFiles .unreachable,
      report.files.contentAt? ["out", "shop.py"] = some c.output.code.toUTF8 ∧
      report.files.contentAt? ["shop.json"] = shopFiles.contentAt? ["shop.json"] := by
  intro depths report
  have hexit : report.exit = 0 := by decide +kernel
  obtain ⟨-, -, hwritten⟩ := runArguments_files shop_accepted shopFiles .unreachable
  obtain ⟨c, directory, name, place, hdirectory, hname, hplace, hcontent, hothers, -⟩ :=
    hwritten hexit rfl rfl
  have hinFile : c.inFile = [("output_file", .str "shop.py")] := by
    have hread : Settings.fileMembers shopFiles "plan.json" =
      .ok [("output_file", .str "shop.py")] := by decide +kernel
    exact Except.ok.inj (c.read.symm.trans hread)
  obtain rfl : "out" = directory := Option.some.inj hdirectory
  obtain rfl : "shop.py" = name := by
    rw [hinFile] at hname
    exact Json.str.inj hname
  have hhere : place = ["out", "shop.py"] := by
    have hlocate : shopFiles.locate ((PathName.ofString "out").join (PathName.ofString "shop.py")) =
      .ok ["out", "shop.py"] := by decide +kernel
    exact Except.ok.inj (hplace.symm.trans hlocate)
  subst hhere
  exact ⟨hexit, c, hcontent, hothers ["shop.json"] (by decide)⟩

end CommandLine
end TrackingPlan
