import FrameMachine.Proofs.Layers
import FrameMachine.Proofs.Unconfigured

/-! A rendered configuration is a document that gives both settings, and reading it gives the configuration
back: its digits are read exactly up to the largest signed integer of 64 bits, and nothing else is laid
over them. The file is looked up under its path from the root, which must not be too long. -/

namespace FrameMachine

namespace Directory

variable {directory : Directory} {path text : String}

theorem intercalate_names (path : String) : "/".intercalate (names path) = path := by
  have back (parts : List (List Char)) : (parts.map String.ofList).map String.toList = parts := by
    simp
  have slash : "/".toList = ['/'] := by decide
  rw [← String.toList_inj, String.toList_intercalate, names, back, slash, List.intercalate_splitOn]

def EndsInName (names : List String) : Prop :=
  ∃ front name, names = front ++ [name] ∧ ¬ (name = "" ∨ name = "." ∨ name = "..")

theorem follow_endsInName {place target : Place} {names : List String}
    (followed : directory.follow place names = some target) : EndsInName names := by
  fun_induction follow directory place names with
  | case1 => cases followed
  | case2 => cases followed
  | case3 place name solid => exact ⟨[], name, rfl, solid⟩
  | case4 place name rest _ _ ih =>
    obtain ⟨front, last, rfl, solid⟩ := ih followed
    exact ⟨name :: front, last, rfl, solid⟩
  | case5 => cases followed

theorem read?_short (held : directory.read? path = some text) : path.utf8ByteSize ≤ maxPathSize := by
  rw [read?] at held
  split at held
  next => cases held
  next short => exact Nat.not_lt.mp short

theorem names_endsInName (held : directory.read? path = some text) : EndsInName (names path) := by
  rw [read?, if_neg (Nat.not_lt.mpr (read?_short held))] at held
  obtain ⟨place, followed, -⟩ := Option.bind_eq_some_iff.mp held
  exact follow_endsInName followed

theorem fullPath_extended (path : String) :
    directory.fullPath (path ++ ".toml") = directory.fullPath path ++ ".toml" := by
  have rooted : (path ++ ".toml").startsWith "/" = path.startsWith "/" := by
    rw [Bool.eq_iff_iff, String.startsWith_string_iff, String.startsWith_string_iff, String.toList_append]
    cases path.toList with
    | nil => decide
    | cons c cs => simp
  rw [fullPath, fullPath, rooted]
  split
  next => rfl
  next => exact String.append_assoc.symm

/-- A path that stays in the working directory for some steps before it goes on to a name. -/
def detour (name : String) : Nat → String
  | 0 => name
  | steps + 1 => "./" ++ detour name steps

theorem detour_size (name : String) (steps : Nat) :
    (detour name steps).utf8ByteSize = 2 * steps + name.utf8ByteSize := by
  have here : "./".utf8ByteSize = 2 := by decide
  induction steps with
  | zero => rw [detour, Nat.mul_zero, Nat.zero_add]
  | succ steps ih =>
    rw [detour, String.utf8ByteSize_append, ih, here]
    omega

theorem names_here (path : String) : names ("./" ++ path) = "." :: names path := by
  have here : ("./" ++ path).toList = ['.'] ++ '/' :: path.toList := by
    rw [String.toList_append]
    rfl
  rw [names, here, List.splitOn_append_cons_self_of_not_mem (by decide), List.map_cons, ← names]

theorem here_relative (path : String) : ¬ ("./" ++ path).startsWith "/" = true := by
  have here : "./".toList = ['.', '/'] := by decide
  rw [String.startsWith_string_iff, String.toList_append, here]
  simp

theorem read?_here (relative : ¬ path.startsWith "/" = true)
    (short : ("./" ++ path).utf8ByteSize ≤ maxPathSize) :
    directory.read? ("./" ++ path) = directory.read? path := by
  have shorter : path.utf8ByteSize ≤ maxPathSize := by
    rw [String.utf8ByteSize_append] at short
    exact Nat.le_trans (Nat.le_add_left _ _) short
  have begun : directory.start ("./" ++ path) = directory.start path := by
    rw [start, start, if_neg (here_relative path), if_neg relative]
  have there : directory.hasDirectory (Place.enter (directory.start path) ".") = true := by
    simp [start, relative, Place.enter, hasDirectory]
  have stays : directory.follow (directory.start path) ("." :: names path) =
      directory.follow (directory.start path) (names path) := by
    cases same : names path with
    | nil => exact absurd (List.map_eq_nil_iff.mp same) (List.splitOn_ne_nil _ _)
    | cons name rest =>
      rw [follow, if_pos there]
      · rfl
      · simp
  rw [read?, read?, if_neg (Nat.not_lt.mpr short), if_neg (Nat.not_lt.mpr shorter), names_here, begun,
    stays]

theorem detour_relative {name : String} (relative : ¬ name.startsWith "/" = true) (steps : Nat) :
    ¬ (detour name steps).startsWith "/" = true := by
  cases steps with
  | zero => exact relative
  | succ steps => exact here_relative _

/-- A detour leads to the same file. -/
theorem read?_detour {name : String} (relative : ¬ name.startsWith "/" = true) {steps : Nat}
    (short : (detour name steps).utf8ByteSize ≤ maxPathSize) :
    directory.read? (detour name steps) = directory.read? name := by
  induction steps with
  | zero => rfl
  | succ steps ih =>
    have shorter : (detour name steps).utf8ByteSize ≤ maxPathSize := by
      rw [detour_size] at short ⊢
      omega
    exact (read?_here (detour_relative relative steps) short).trans (ih shorter)

end Directory

namespace Configuration

theorem withExtension?_eq {path : String} (ends : Directory.EndsInName (Directory.names path)) :
    withExtension? path = some (path ++ ".toml") := by
  obtain ⟨front, name, last, solid⟩ := ends
  simp only [not_or] at solid
  have trimmed : trimPath path = Directory.names path := by
    simp [trimPath, last, solid.1, solid.2.1]
  rw [withExtension?, trimmed, Directory.intercalate_names, last, List.getLast?_concat]
  exact if_neg solid.2.2

/-- The document at a path to a file is the text of that file, unless the path is too long when it starts
from the root. -/
theorem find?_of_read {directory : Directory} {path text : String}
    (held : directory.read? path = some text) :
    find? directory path =
      if Directory.maxPathSize < (directory.fullPath path).utf8ByteSize then none else some text := by
  by_cases long : Directory.maxPathSize < (directory.fullPath path).utf8ByteSize
  · have extended := withExtension?_eq (Directory.names_endsInName held)
    have longer : Directory.maxPathSize < (directory.fullPath (path ++ ".toml")).utf8ByteSize := by
      rw [Directory.fullPath_extended, String.utf8ByteSize_append]
      exact Nat.lt_add_right _ long
    rw [if_pos long, find?, Directory.readInFull?, if_pos long, extended]
    exact if_pos longer
  · rw [if_neg long, find?, Directory.readInFull?, if_neg long, held]

namespace Layer

def full (config : Configuration) (small : (config.maxDepth.toNat : Int) ≤ Int64.maxValue.toInt) :
    Layer where
  maxDepth := some config.maxDepth.toNat
  traceEnabled := some config.traceEnabled
  small := by
    rintro n ⟨⟩
    exact small

theorem depth_full {config : Configuration}
    (small : (config.maxDepth.toNat : Int) ≤ Int64.maxValue.toInt) :
    (full config small).depth = some config.maxDepth := by
  rw [depth, full, Option.map_some, UInt64.ofNat_toNat]

def silent : Layer where
  maxDepth := none
  traceEnabled := none
  small := by
    rintro n ⟨⟩

theorem silent_setIn {environment : Environment} (foreign : ∀ entry ∈ environment, IsForeign entry) :
    silent.SetIn environment where
  depthSet := by
    rintro n ⟨⟩
  switchSet := by
    rintro b ⟨⟩
  depthSpelled := by
    intro entry member marked
    have own : "kernel_".toList <+: "kernel_engine".toList := by decide
    exact absurd (own.trans marked) (foreign entry member)
  switchSpelled := by
    intro entry member marked
    have own : "kernel_".toList <+: "kernel_trace".toList := by decide
    exact absurd (own.trans marked) (foreign entry member)

end Layer

/-- Where nothing else is said, what a document at the caller's path gives is in force over the defaults. -/
theorem resolve_read (surroundings : Surroundings) {path : String} {file : Layer}
    (held : surroundings.directory.read? path = some file.document)
    (unaided : surroundings.directory.LacksUpward ".env")
    (foreign : ∀ entry ∈ surroundings.environment, IsForeign entry) :
    resolve surroundings ⟨some path, none, none⟩ =
      if Directory.maxPathSize < (surroundings.directory.fullPath path).utf8ByteSize then .error .sources
      else if file.depth.getD 512 = 0 then .error .zeroDepth
      else .ok ⟨file.depth.getD 512, file.traceEnabled.getD false⟩ := by
  by_cases long : Directory.maxPathSize < (surroundings.directory.fullPath path).utf8ByteSize
  · have missing : document surroundings.directory
        (requiredPath? (some path) (environment surroundings)) = .error .sources := by
      change document surroundings.directory (some path) = _
      rw [document, find?_of_read held, if_pos long]
    rw [if_pos long, resolve, missing]
    rfl
  · have found : document surroundings.directory
        (requiredPath? (some path) surroundings.environment) = .ok file.document := by
      change document surroundings.directory (some path) = _
      rw [document, find?_of_read held, if_neg long]
    have stands := file.standsIn_document
    rw [if_neg long, resolve_said unaided found (Layer.silent_setIn foreign) stands.maxDepth
      stands.traceEnabled, depth_layers, switch_layers]
    rfl

theorem render?_eq {config : Configuration}
    (small : (config.maxDepth.toNat : Int) ≤ Int64.maxValue.toInt) :
    config.render? = some (Layer.full config small).document := by
  have opened : "[engine]\nmax_depth = ".toList = "[engine]\n".toList ++ "max_depth = ".toList := by decide
  have between : "\n\n[trace]\nenabled = ".toList =
      '\n' :: ("\n[trace]\n".toList ++ "enabled = ".toList) := by decide
  have ended : "\n".toList = ['\n'] := by decide
  have digits : (Decimal.text config.maxDepth.toNat).toList = Decimal.digits config.maxDepth.toNat :=
    String.toList_ofList
  rw [render?, if_pos small, Option.some_inj, ← String.toList_inj, Layer.document, String.toList_ofList,
    Layer.characters_eq]
  simp only [String.toList_append, opened, between, ended, digits, Layer.depthLine, Layer.switchLine,
    Layer.full, Option.elim_some, List.append_assoc, List.cons_append, List.nil_append]

/-- Every configuration with a depth from one up to the largest signed integer has a document, and a
program that finds this document at the caller's path, and no settings elsewhere, has that configuration
in force. -/
theorem resolve_rendered (config : Configuration) (positive : 1 ≤ config.maxDepth)
    (small : (config.maxDepth.toNat : Int) ≤ Int64.maxValue.toInt) :
    ∃ text, config.render? = some text ∧
      ∀ (surroundings : Surroundings) (path : String),
        surroundings.directory.read? path = some text →
        (surroundings.directory.fullPath path).utf8ByteSize ≤ Directory.maxPathSize →
        surroundings.directory.LacksUpward ".env" →
        (∀ entry ∈ surroundings.environment, IsForeign entry) →
        resolve surroundings ⟨some path, none, none⟩ = .ok config := by
  refine ⟨_, render?_eq small, ?_⟩
  intro surroundings path held short unaided foreign
  have nonzero : config.maxDepth ≠ 0 := by
    intro zero
    rw [zero] at positive
    exact absurd positive (by decide)
  rw [resolve_read surroundings held unaided foreign, if_neg (Nat.not_lt.mpr short), Layer.depth_full,
    Option.getD_some, if_neg nonzero]
  rfl

/-- The largest depth that has a document. The file of the very name is taken, not the one with the
extension, and a variable with nothing behind the program's name is none of its own. -/
theorem resolve_rendered_largest :
    let text : String := "[engine]\nmax_depth = 9223372036854775807\n\n[trace]\nenabled = true\n"
    let directory : Directory := ⟨"/work", [("settings", text), ("settings.toml", "[engine]\n")]⟩
    render? ⟨9223372036854775807, true⟩ = some text ∧
    resolve ⟨directory, [("HOME", "/work"), ("KERNEL", "7")]⟩ ⟨some "./settings", none, none⟩ =
      .ok ⟨9223372036854775807, true⟩ := by
  intro text directory
  obtain ⟨found, rendered, read⟩ := resolve_rendered ⟨9223372036854775807, true⟩ (by decide) (by decide)
  have same : render? ⟨9223372036854775807, true⟩ = some text := by decide +kernel
  cases rendered.symm.trans same
  have held : directory.read? "./settings" = some text := by decide +kernel
  have short : (directory.fullPath "./settings").utf8ByteSize ≤ Directory.maxPathSize := by decide +kernel
  have unaided : directory.LacksUpward ".env" := by decide +kernel
  refine ⟨same, read ⟨directory, _⟩ "./settings" held short unaided ?_⟩
  intro entry member
  have pair : entry = ("HOME", "/work") ∨ entry = ("KERNEL", "7") := by
    simpa using member
  rw [IsForeign]
  rcases pair with rfl | rfl <;> decide

/-- Both conditions are needed. A variable in lower case is laid over the document, and a document that can be
read under its own path is not found if the path from the root is too long. -/
theorem resolve_rendered_lost :
    let text : String := "[engine]\nmax_depth = 32\n\n[trace]\nenabled = true\n"
    let directory : Directory := ⟨"/work", [("b.toml", text)]⟩
    render? ⟨32, true⟩ = some text ∧ directory.LacksUpward ".env" ∧
    (directory.read? "b.toml" = some text ∧
      ¬ "KERNEL".toList <+: "kernel_engine__max_depth".toList ∧
      (resolve ⟨directory, [("kernel_engine__max_depth", "4")]⟩ ⟨some "b.toml", none, none⟩).toOption =
        some ⟨4, true⟩) ∧
    directory.read? (Directory.detour "b.toml" 2044) = some text ∧
    resolve ⟨directory, []⟩ ⟨some (Directory.detour "b.toml" 2044), none, none⟩ = .error .sources := by
  intro text directory
  have same : render? ⟨32, true⟩ = some text := by decide +kernel
  have held : directory.read? "b.toml" = some text := by decide +kernel
  have unaided : directory.LacksUpward ".env" := by decide +kernel
  have relative : ¬ "b.toml".startsWith "/" = true := by decide +kernel
  have short : (Directory.detour "b.toml" 2044).utf8ByteSize ≤ Directory.maxPathSize := by
    rw [Directory.detour_size]
    decide
  have long : Directory.maxPathSize <
      (directory.fullPath (Directory.detour "b.toml" 2044)).utf8ByteSize := by
    rw [Directory.fullPath, if_neg (Directory.detour_relative relative 2044), String.utf8ByteSize_append,
      Directory.detour_size]
    decide
  have heldToo : directory.read? (Directory.detour "b.toml" 2044) = some text :=
    (Directory.read?_detour relative short).trans held
  refine ⟨same, unaided, ⟨held, by decide, by decide +kernel⟩, heldToo, ?_⟩
  have document : text = (Layer.full ⟨32, true⟩ (by decide)).document :=
    Option.some.inj (same.symm.trans (render?_eq _))
  rw [document] at heldToo
  exact (resolve_read ⟨directory, []⟩ heldToo unaided (by simp)).trans (if_pos long)

end Configuration

end FrameMachine
