import TrackingPlan.Files.Tree
import TrackingPlan.Proofs.Steps

/-!
# Files that were written

A written file is there, and it holds what was written. Writing a file moves no directory, so its
path name leads to the same place as before.

Key definitions: `FileTree.Writable`.
Key theorems: `FileTree.write_eq_ok`, `FileTree.place_of_write`, `FileTree.has_of_write`,
`FileTree.read_of_write`.
-/

namespace TrackingPlan
namespace FileTree

open Steps

variable {t u : FileTree} {p : PathName} {data : ByteArray}

/-- A file can be written under the path name: its place is known and holds no directory. -/
def Writable (t : FileTree) (p : PathName) : Prop :=
  ∃ here, t.locate p = .ok here ∧ t.isDirectoryAt here = false

/-- What becomes of a tree when a file is written. -/
theorem write_eq_ok : t.write p data = .ok u ↔ ∃ here, t.locate p = .ok here ∧
    t.isDirectoryAt here = false ∧ u = { t with files := setContent t.files here data } := by
  simp only [write, bind_eq_ok]
  constructor
  · rintro ⟨here, hhere, h⟩
    split at h
    · exact absurd h (by simp [throw, throwThe, MonadExceptOf.throw, bind, Except.bind])
    · rename_i hdirectory
      exact ⟨here, hhere, by simpa using hdirectory, (Except.ok.inj h).symm⟩
  · rintro ⟨here, hhere, hdirectory, rfl⟩
    refine ⟨here, hhere, ?_⟩
    rw [hdirectory]
    rfl

theorem exists_write (h : t.Writable p) (data : ByteArray) : ∃ u, t.write p data = .ok u := by
  obtain ⟨here, hhere, hdirectory⟩ := h
  exact ⟨_, write_eq_ok.mpr ⟨here, hhere, hdirectory, rfl⟩⟩

/-- The directories alone decide where steps lead. -/
theorem walk_congr (h : t.directories = u.directories) : ∀ (parts here : List String),
    t.walk here parts = u.walk here parts
  | [], _ => rfl
  | part :: rest, here => by
    have hdirectory : t.isDirectoryAt here = u.isDirectoryAt here := by
      rw [isDirectoryAt, isDirectoryAt, h]
    rw [walk, walk, hdirectory, walk_congr h rest, walk_congr h rest]

theorem locate_congr (h : t.directories = u.directories) (p : PathName) :
    t.locate p = u.locate p := by
  rw [locate, locate, walk_congr h]

theorem lookup_setContent (here : List String) (data : ByteArray) :
    ∀ files : List (List String × ByteArray),
      (setContent files here data).lookup here = some data
  | [] => by simp [setContent]
  | (place, old) :: rest => by
    rw [setContent]
    by_cases hplace : place = here
    · simp [hplace]
    · rw [if_neg hplace, List.lookup_cons, beq_eq_false_iff_ne.mpr (Ne.symm hplace)]
      exact lookup_setContent here data rest

theorem lookup_setContent_of_ne {here other : List String} (h : other ≠ here) (data : ByteArray) :
    ∀ files : List (List String × ByteArray),
      (setContent files here data).lookup other = files.lookup other
  | [] => by simp [setContent, h]
  | (place, old) :: rest => by
    rw [setContent]
    by_cases hplace : place = here
    · have hother : (other == place) = false := beq_eq_false_iff_ne.mpr (hplace ▸ h)
      rw [if_pos hplace, List.lookup_cons, List.lookup_cons, hother]
    · rw [if_neg hplace, List.lookup_cons, List.lookup_cons,
        lookup_setContent_of_ne h data rest]

/-- **Writing a file changes the content of one place only.** -/
theorem place_of_write (h : t.write p data = .ok u) : ∃ here, t.locate p = .ok here ∧
    u.contentAt? here = some data ∧
      (∀ other, other ≠ here → u.contentAt? other = t.contentAt? other) ∧
      u.directories = t.directories := by
  obtain ⟨here, hhere, -, rfl⟩ := write_eq_ok.mp h
  refine ⟨here, hhere, lookup_setContent here data t.files, fun other hother => ?_, rfl⟩
  exact lookup_setContent_of_ne hother data t.files

/-- Where a file was written there is no directory, and what was written. -/
theorem exists_place_of_write (h : t.write p data = .ok u) : ∃ here, u.locate p = .ok here ∧
    u.isDirectoryAt here = false ∧ u.contentAt? here = some data := by
  obtain ⟨here, hhere, hdirectory, hu⟩ := write_eq_ok.mp h
  have hdirectories : u.directories = t.directories := by rw [hu]
  refine ⟨here, (locate_congr hdirectories p).trans hhere, ?_, ?_⟩
  · rwa [isDirectoryAt, hdirectories]
  · rw [hu]
    exact lookup_setContent here data t.files

/-- A file that can be read is there. -/
theorem has_of_read (h : t.read p = .ok data) : t.has p = .ok true := by
  simp only [read, bind_eq_ok] at h
  obtain ⟨here, hhere, h⟩ := h
  by_cases hdirectory : t.isDirectoryAt here
  · simp only [has, holdsAt, hhere, hdirectory, Bool.true_or]
  · rw [if_neg hdirectory] at h
    cases hcontent : t.contentAt? here with
    | none => simp [hcontent] at h
    | some content => simp only [has, holdsAt, hhere, hcontent, Option.isSome_some, Bool.or_true]

/-- **A written file is there.** -/
theorem has_of_write (h : t.write p data = .ok u) : u.has p = .ok true := by
  obtain ⟨here, hhere, -, hcontent⟩ := exists_place_of_write h
  simp only [has, holdsAt, hhere, hcontent, Option.isSome_some, Bool.or_true]

/-- **A written file holds what was written.** -/
theorem read_of_write (h : t.write p data = .ok u) : u.read p = .ok data := by
  obtain ⟨here, hhere, hdirectory, hcontent⟩ := exists_place_of_write h
  simp only [read, bind_eq_ok]
  refine ⟨here, hhere, ?_⟩
  rw [hdirectory, hcontent]
  rfl

end FileTree
end TrackingPlan
