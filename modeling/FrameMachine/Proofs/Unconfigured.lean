import FrameMachine.Configuration.Resolve

/-! A program that finds no settings around it. If no file of variables stands in the working directory or
above it, no document under a name of its own, and no variable of the program in the environment, then
only what the caller asks for is in force over the defaults. -/

namespace FrameMachine

namespace Directory

/-- A name that a file in the working directory can have. -/
structure IsName (name : String) : Prop where
  nonempty : name ≠ ""
  notHere : name ≠ "."
  notAbove : name ≠ ".."
  unslashed : '/' ∉ name.toList
  short : name.utf8ByteSize ≤ maxPathSize

namespace IsName

instance (name : String) : Decidable (IsName name) :=
  decidable_of_iff (name ≠ "" ∧ name ≠ "." ∧ name ≠ ".." ∧ '/' ∉ name.toList ∧
      name.utf8ByteSize ≤ maxPathSize)
    ⟨fun ⟨nonempty, notHere, notAbove, unslashed, short⟩ =>
        ⟨nonempty, notHere, notAbove, unslashed, short⟩,
      fun isName =>
        ⟨isName.nonempty, isName.notHere, isName.notAbove, isName.unslashed, isName.short⟩⟩

variable {name : String} (isName : IsName name)

include isName

theorem names_eq : names name = [name] := by
  rw [names, List.splitOn_eq_singleton isName.unslashed, List.map_singleton, String.ofList_toList]

theorem relative : name.startsWith "/" = false := by
  rw [String.startsWith_string_eq_false_iff]
  rintro ⟨rest, starts⟩
  exact isName.unslashed (by simp [← starts])

theorem placeOf_eq (directory : Directory) : directory.placeOf name = directory.here ++ [name] := by
  simp [placeOf, start, Place.enter, isName.names_eq, isName.relative, isName.nonempty, isName.notHere,
    isName.notAbove]

theorem read?_eq (directory : Directory) :
    directory.read? name = directory.content? (directory.here ++ [name]) := by
  simp [read?, follow, start, isName.names_eq, isName.relative, isName.nonempty, isName.notHere,
    isName.notAbove, Nat.not_lt.mpr isName.short]

end IsName

theorem readInFull?_eq_none {directory : Directory} {path : String}
    (missing : directory.read? path = none) : directory.readInFull? path = none := by
  rw [readInFull?, missing, ite_self]

/-- A file of the working directory, and the only one there. Other directories may hold what they like. -/
structure HoldsOnly (directory : Directory) (file text : String) : Prop where
  held : directory.read? file = some text
  alone : ∀ name, IsName name → name ≠ file → directory.read? name = none

theorem HoldsOnly.of_files {directory : Directory} {file text : String} (isName : IsName file)
    (held : directory.read? file = some text)
    (others : ∀ entry ∈ directory.files,
      entry.1 = file ∨ (directory.placeOf entry.1).dropLast ≠ directory.here) :
    directory.HoldsOnly file text := by
  refine ⟨held, ?_⟩
  intro name asked other
  rw [asked.read?_eq, content?, Option.map_eq_none_iff, List.find?_eq_none]
  intro entry member found
  have place : directory.placeOf entry.1 = directory.here ++ [name] := by simpa using found
  rcases others entry (List.mem_reverse.mp member) with rfl | elsewhere
  · rw [isName.placeOf_eq] at place
    simp only [List.append_cancel_left_eq, List.cons.injEq, and_true] at place
    exact other place.symm
  · rw [place, List.dropLast_concat] at elsewhere
    exact elsewhere rfl

/-- Neither the working directory nor a directory above it, up to the root, holds a file with this name. -/
def LacksUpward (directory : Directory) (name : String) : Prop :=
  ∀ level ≤ directory.here.length, directory.content? (directory.here.take level ++ [name]) = none

instance (directory : Directory) (name : String) : Decidable (directory.LacksUpward name) :=
  inferInstanceAs (Decidable (∀ level ≤ _, _ = _))

theorem nearest?_eq_none {directory : Directory} {name : String} {above : List String}
    (lacks : ∀ level ≤ above.length, directory.content? (above.reverse.take level ++ [name]) = none) :
    directory.nearest? name above = none := by
  induction above with
  | nil => exact lacks 0 (Nat.le_refl 0)
  | cons last above ih =>
    have missing := lacks (last :: above).length (Nat.le_refl _)
    rw [List.take_of_length_le (by simp)] at missing
    rw [nearest?, missing]
    apply ih
    intro level within
    have higher := lacks level (Nat.le_succ_of_le within)
    rwa [List.reverse_cons, List.take_append_of_le_length (by simpa using within)] at higher

theorem LacksUpward.readUpward?_eq_none {directory : Directory} {name : String}
    (lacks : directory.LacksUpward name) : directory.readUpward? name = none := by
  rw [readUpward?]
  split
  next => rfl
  next =>
    apply nearest?_eq_none
    intro level within
    rw [List.reverse_reverse]
    exact lacks level (by simpa using within)

end Directory

namespace Configuration

/-- A variable that is none of the program's own: its name does not start with `KERNEL_`, in upper or
lower case. -/
def IsForeign (entry : String × String) : Prop :=
  ¬ "kernel_".toList <+: entry.1.toList.map lowerChar

theorem key?_foreign {entry : String × String} (foreign : IsForeign entry) :
    Variables.key? entry.1 = none := by
  rw [Variables.key?, if_neg]
  intro own
  exact foreign (List.isPrefixOf_iff_prefix.mp own)

theorem settings_foreign {environment : Environment} (foreign : ∀ entry ∈ environment, IsForeign entry) :
    Variables.settings environment = [] := by
  rw [Variables.settings, List.filterMap_eq_nil_iff]
  intro entry member
  simp [key?_foreign (foreign entry member)]

theorem requiredPath?_foreign {environment : Environment}
    (foreign : ∀ entry ∈ environment, IsForeign entry) : requiredPath? none environment = none := by
  have named : Variables.key? "KERNEL_CONFIG_PATH" ≠ none := by decide
  change environment.lookup "KERNEL_CONFIG_PATH" = none
  rw [List.lookup_eq_none_iff]
  intro entry member
  rw [bne_iff_ne]
  intro same
  exact named (same ▸ key?_foreign (foreign entry member))

def ownFiles : List String := ["kernel", "kernel.toml", ".env"]

theorem ownFiles_isName {name : String} (own : name ∈ ownFiles) : Directory.IsName name := by
  simp only [ownFiles, List.mem_cons, List.not_mem_nil, or_false] at own
  rcases own with rfl | rfl | rfl <;> decide

theorem environment_unaided {surroundings : Surroundings}
    (unaided : surroundings.directory.LacksUpward ".env") :
    environment surroundings = surroundings.environment := by
  simp only [environment, unaided.readUpward?_eq_none]

theorem resolve_unconfigured {surroundings : Surroundings} {file text : String}
    (stored : surroundings.directory.HoldsOnly file text) (ordinary : file ∉ ownFiles)
    (unaided : surroundings.directory.LacksUpward ".env")
    (foreign : ∀ entry ∈ surroundings.environment, IsForeign entry) {maxDepth : UInt64}
    (positive : maxDepth ≠ 0) :
    resolve surroundings ⟨none, some maxDepth, none⟩ = .ok ⟨maxDepth, false⟩ := by
  have missing : ∀ name ∈ ownFiles, surroundings.directory.read? name = none := by
    intro name own
    apply stored.alone name (ownFiles_isName own)
    rintro rfl
    exact ordinary own
  have bare : find? surroundings.directory "kernel" = none := by
    have extended : withExtension? "kernel" = some "kernel.toml" := by decide
    rw [find?, Directory.readInFull?_eq_none (missing "kernel" (by decide)), extended]
    exact Directory.readInFull?_eq_none (missing "kernel.toml" (by decide))
  have empty : settings "" surroundings.environment = .ok (.table []) := by
    have read : Setting.ofDocument? "" = some [] := rfl
    rw [settings, read, settings_foreign foreign]
    rfl
  simp only [resolve, environment_unaided unaided, requiredPath?_foreign foreign, document, bare,
    Option.getD_none, bind, Except.bind, empty]
  change override ⟨none, some maxDepth, none⟩ standard = _
  rw [override]
  exact if_neg positive

end Configuration

end FrameMachine
