/-!
# How deep values may be nested

Lists and objects are read and written by functions that call themselves once for each level, and
how many levels there is room for hangs on the calls that are open already. So each way to read or
to write a text has a depth of its own. Nothing is known of these depths but what is assumed.

Key definitions: `Depths`, `Depths.Reloads`, `Depths.uniform`.
-/

namespace TrackingPlan

/-- How deep lists and objects may stand in each other, for each way to read or to write them. -/
class Depths where
  /-- In the text of a schema. -/
  schemaText : Nat
  /-- In a file with a schema. -/
  schemaFile : Nat
  /-- In the body of a reply. -/
  reply : Nat
  /-- In a file with a configuration. -/
  configFile : Nat
  /-- In a configuration that is kept in a file. -/
  keptConfig : Nat

namespace Depths

/-- A configuration is not kept when it is too deep to be read back. -/
def Reloads (d : Depths) : Prop := d.keptConfig ≤ d.configFile

/-- The same depth for all ways. -/
@[reducible]
def uniform (depth : Nat) : Depths := ⟨depth, depth, depth, depth, depth⟩

end Depths
end TrackingPlan
