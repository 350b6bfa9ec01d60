import ServerTrials.Json.Printer
import ServerTrials.Json.Reader
import ServerTrials.Server.ConfigError

/-!
Option maps: what a server is started with, before any rule has judged it.

A map holds JSON values under names in rising order, each name once, so a map is determined by what it
holds. An absent name means that the option was left out; a value is never read as absent, whatever it
is. Two maps are the same (`==`) if they hold the same values (`==`) under the same names.
-/

namespace ServerTrials

/-! ### Names of the options a server reads -/

namespace Key

/-- The transport protocol. -/
def protocol : String := "protocol"

/-- Basic or full mode. -/
def mode : String := "mode"

/-- The IP family. -/
def family : String := "family"

/-- The limit of connections. -/
def maxConnections : String := "max_connections"

/-- How much the server tells; no rule judges it. -/
def verbosity : String := "verbosity"

/-- The primary port. -/
def primaryPort : String := "primary_port"

/-- The name of the primary interface. -/
def primaryInterface : String := "primary_interface"

/-- The address that clients are told in place of the primary one. -/
def primaryAdvertised : String := "primary_advertised"

/-- The alternate port. -/
def alternatePort : String := "alternate_port"

/-- The name of the alternate interface. -/
def alternateInterface : String := "alternate_interface"

/-- The address that clients are told in place of the alternate one. -/
def alternateAdvertised : String := "alternate_advertised"

/-- Every option that a server reads. -/
def all : List String :=
  [mode, family, protocol, maxConnections, verbosity, primaryPort, alternatePort, primaryInterface,
    alternateInterface, primaryAdvertised, alternateAdvertised]

end Key

/-! ### Maps -/

/-- The names of the members stand in rising order. -/
def Json.Rising (members : List (String × Json)) : Prop := members.Pairwise fun a b => a.1 < b.1

theorem Json.mem_setMember {name : String} {value : Json} {members : List (String × Json)}
    {m : String × Json} (h : m ∈ Json.setMember name value members) :
    m = (name, value) ∨ m ∈ members := by
  induction members with
  | nil => simpa [Json.setMember] using h
  | cons p ps ih =>
    unfold Json.setMember at h
    split at h
    · simpa using h
    · split at h
      · rcases List.mem_cons.1 h with rfl | h
        · simp
        · rcases ih h with h | h <;> simp [h]
      · rcases List.mem_cons.1 h with rfl | h <;> simp_all

theorem Json.Rising.setMember {members : List (String × Json)} (h : Json.Rising members)
    (name : String) (value : Json) : Json.Rising (Json.setMember name value members) := by
  induction members with
  | nil => simp [Json.setMember, Json.Rising]
  | cons p ps ih =>
    obtain ⟨first, rest⟩ := List.pairwise_cons.1 h
    unfold Json.setMember
    split
    next lt =>
      refine List.pairwise_cons.2 ⟨fun m hm => ?_, h⟩
      rcases List.mem_cons.1 hm with rfl | hm
      · exact lt
      · exact String.lt_trans lt (first m hm)
    next not_lt =>
      split
      next gt =>
        refine List.pairwise_cons.2 ⟨fun m hm => ?_, ih rest⟩
        rcases Json.mem_setMember hm with rfl | hm
        · exact gt
        · exact first m hm
      next not_gt =>
        have same : name = p.1 :=
          String.le_antisymm (String.not_lt.1 not_gt) (String.not_lt.1 not_lt)
        exact List.pairwise_cons.2 ⟨fun m hm => same ▸ first m hm, rest⟩

/-- A map from option names to values. -/
structure OptionMap where
  entries : List (String × Json)
  rising : Json.Rising entries

namespace OptionMap

/-- The map without options. -/
def empty : OptionMap := ⟨[], List.Pairwise.nil⟩

instance : Inhabited OptionMap := ⟨empty⟩

instance : BEq OptionMap :=
  ⟨fun a b => decide (Json.canonicalMembers a.entries = Json.canonicalMembers b.entries)⟩

instance : DecidableEq OptionMap := fun a b =>
  if h : a.entries = b.entries then isTrue (by cases a; cases b; simp_all)
  else isFalse fun e => h (e ▸ rfl)

/-- The value of an option; none if it was left out. -/
def get? (o : OptionMap) (key : String) : Option Json := Json.get? o.entries key

/-- Whether the option is there. -/
def contains (o : OptionMap) (key : String) : Bool := (o.get? key).isSome

/-- The map with an option set, in place of any earlier value. -/
def insert (o : OptionMap) (key : String) (value : Json) : OptionMap :=
  ⟨Json.setMember key value o.entries, o.rising.setMember key value⟩

/-- The map without an option. -/
def erase (o : OptionMap) (key : String) : OptionMap :=
  ⟨o.entries.filter (·.1 != key), o.rising.filter _⟩

/-- The map of a list of pairs; of several with one name the last counts. -/
def ofList (pairs : List (String × Json)) : OptionMap :=
  pairs.foldl (fun o p => o.insert p.1 p.2) empty

/-- The names of the options in rising order. -/
def keys (o : OptionMap) : List String := o.entries.map (·.1)

/-- How many options there are. -/
def size (o : OptionMap) : Nat := o.entries.length

/-- Whether every option was left out. -/
def isEmpty (o : OptionMap) : Bool := o.entries.isEmpty

/-- The map as a JSON object. -/
def toJson (o : OptionMap) : Json := .object o.entries

/-- The compact text of the map. -/
def text (o : OptionMap) : String := o.toJson.text

/-- The options that a value stands for: an absent value is the empty map, an object is itself. -/
def ofValue : Option Json → Except ConfigError OptionMap
  | none => .ok empty
  | some (.object members) => .ok (ofList members)
  | some _ => .error .notAnObject

/-- The options that a JSON text holds. -/
def ofText? (s : String) : Option OptionMap :=
  match Json.ofText? s with
  | some (.object members) => some (ofList members)
  | _ => none

/-! ### Typed options -/

/-- An option that has to be a string if it is there. -/
def string? (o : OptionMap) (key : String) : Except ConfigError (Option String) :=
  match o.get? key with
  | none => .ok none
  | some (.string s) => .ok (some s)
  | some _ => .error (.invalidType key "a string")

/-- An option that has to be an integer of 64 bits if it is there. -/
def integer? (o : OptionMap) (key : String) : Except ConfigError (Option Int) :=
  match o.get? key with
  | none => .ok none
  | some v =>
    match v.int64? with
    | some n => .ok (some n)
    | none => .error (.invalidType key "an integer")

end OptionMap
end ServerTrials
