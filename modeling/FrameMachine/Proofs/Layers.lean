import FrameMachine.Proofs.Documents
import FrameMachine.Proofs.Unconfigured

/-! Each setting is resolved on its own. An assignment changes only the section that its path starts with, a
variable leads into a section only if its name says so, and what the caller asks for is put in place
after the conversion. So each of the two settings is the caller's, or else the environment's, or else the
document's, or else the default, whatever the layers say of the other one. -/

namespace FrameMachine

/-- What is checked of the first characters one by one holds of all of them. -/
theorem ascii_forall (P : Char → Prop) (checked : ∀ n < 128, P (Char.ofNat n)) {c : Char}
    (ascii : c.toNat < 128) : P c := by
  have found := checked c.toNat ascii
  rwa [Char.ofNat_toNat] at found

theorem lowerChar_lowerChar (c : Char) : lowerChar (lowerChar c) = lowerChar c := by
  by_cases ascii : c.toNat < 128
  · exact ascii_forall (fun c => lowerChar (lowerChar c) = lowerChar c) (by decide) ascii
  · have capital : ¬ ('A'.toNat ≤ c.toNat ∧ c.toNat ≤ 'Z'.toNat) := by
      intro upper
      exact ascii (Nat.lt_of_le_of_lt upper.2 (by decide))
    have lower : c.toLower = c := dif_neg capital
    by_cases kelvin : c = '\u212A'
    · rw [kelvin]
      decide
    · simp only [lowerChar, if_neg kelvin, lower]

theorem lowerText_of_lower {s : String} (lower : ∀ c ∈ s.toList, lowerChar c = c) : lowerText s = s := by
  rw [lowerText, List.map_congr_left lower, List.map_id', String.ofList_toList]

namespace Setting

theorem lookup_updateEntry (key : String) (change : Option Setting → Setting)
    (entries : List (String × Setting)) :
    (updateEntry key change entries).lookup key = some (change (entries.lookup key)) := by
  induction entries with
  | nil => simp [updateEntry]
  | cons entry rest ih =>
    obtain ⟨name, value⟩ := entry
    by_cases same : name = key
    · simp [updateEntry, same]
    · have other : (key == name) = false := by simpa using Ne.symm same
      simp [updateEntry, same, List.lookup_cons, other, ih]

theorem lookup_updateEntry_other {key name : String} (other : name ≠ key)
    (change : Option Setting → Setting) (entries : List (String × Setting)) :
    (updateEntry key change entries).lookup name = entries.lookup name := by
  have elsewhere : (name == key) = false := by simpa using other
  induction entries with
  | nil => simp [updateEntry, List.lookup_cons, elsewhere]
  | cons entry rest ih =>
    obtain ⟨first, value⟩ := entry
    by_cases same : first = key
    · simp [updateEntry, same, List.lookup_cons, elsewhere]
    · simp only [updateEntry, if_neg same, List.lookup_cons, ih]

/-- What the field of a section is given as, if it is given. There is no answer if the section is no
section. -/
def given? (group name : String) (root : Setting) : Option (Option Setting) :=
  match root.entries.lookup group with
  | none => some none
  | some found => field? name found

theorem fieldOr_eq {α : Type} (standard : α) (read : Setting → Option α) (group name : String)
    (root : Setting) :
    root.fieldOr standard read group name =
      (root.given? group name).bind fun given => given.elim (some standard) read := by
  rw [fieldOr, given?]
  cases root.entries.lookup group with
  | none => rfl
  | some found =>
    dsimp only
    cases field? name found with
    | none => rfl
    | some given => cases given <;> rfl

/-- What a text says of the field of a section. There is no answer if it is no document, or if the section
is no section there. -/
def said? (text group name : String) : Option (Option Setting) :=
  (ofDocument? text).bind fun entries => ((Setting.table []).layer entries).given? group name

def text? : Setting → Option String
  | .text s => some s
  | _ => none

theorem eq_text {value : Setting} {s : String} (same : value.text? = some s) : value = .text s := by
  cases value with
  | text s => rw [Option.some.inj same]
  | nothing | boolean | integer | real | list | table => cases same

def Scalar (value : Setting) : Prop := ∀ entries, value ≠ .table entries

theorem put_scalar {value : Setting} (scalar : value.Scalar) (key : String) (root : Setting) :
    put key root value = .table (updateEntry (lowerText key) (fun _ => value) root.entries) := by
  cases value with
  | table entries => exact absurd rfl (scalar entries)
  | nothing | boolean | integer | real | text | list => rw [put]; exact fun _ same => by cases same

theorem given?_assign {value : Setting} (scalar : value.Scalar) (group : String) {name : String}
    (lower : lowerText name = name) (root : Setting) :
    (assign value [.key group, .key name] root).given? group name = some (some value) := by
  rw [assign, given?, entries, lookup_updateEntry]
  · simp only [assign, put_scalar scalar, lower, field?, lookup_updateEntry]
  · simp

theorem given?_assign_other {group head : String} (other : head ≠ group) (lower : lowerText head = head)
    (name : String) (value : Setting) (rest : List Step) (root : Setting) :
    (assign value (.key head :: rest) root).given? group name = root.given? group name := by
  have elsewhere (change : Option Setting → Setting) :
      (Setting.table (updateEntry head change root.entries)).given? group name =
        root.given? group name := by
    rw [given?, entries, lookup_updateEntry_other other.symm]
    rfl
  cases rest with
  | nil =>
    rw [assign]
    cases value with
    | table incoming =>
      rw [put, lower]
      exact elsewhere _
    | nothing | boolean | integer | real | text | list =>
      rw [put_scalar (by intro entries same; cases same), lower]
      exact elsewhere _
  | cons step rest =>
    rw [assign]
    · exact elsewhere _
    · simp

theorem steps?_done {done : List Step} {part : PathPart} {cs : List Char} {steps : List Step}
    (read : steps? done part cs = some steps) : done <+: steps := by
  induction cs generalizing done part with
  | nil =>
    rw [steps?.eq_def] at read
    cases part with
    | name run =>
      cases run with
      | nil => cases read
      | cons => cases read; exact List.prefix_append _ _
    | position => cases read
    | ended => cases read; exact List.prefix_rfl
  | cons c rest ih =>
    have extended (step : Step) {next : PathPart} (read : steps? (done ++ [step]) next rest = some steps) :
        done <+: steps := (List.prefix_append done [step]).trans (ih read)
    rw [steps?.eq_def] at read
    simp only at read
    split at read
    · split at read
      · exact ih read
      · cases read
    · exact extended _ read
    · exact extended _ read
    · split at read
      · exact ih read
      · cases read
    · split at read
      · exact extended _ read
      · cases read
    · exact ih read
    · exact ih read
    · exact ih read
    · cases read

/-- A path starts with a name that its text starts with. -/
theorem steps?_head {run cs : List Char} {steps : List Step}
    (read : steps? [] (.name run) cs = some steps) :
    ∃ head rest, steps = .key head :: rest ∧ head.toList <+: run.reverse ++ cs := by
  induction cs generalizing run with
  | nil =>
    cases run with
    | nil => cases read
    | cons c run =>
      cases read
      exact ⟨_, [], rfl, by simp⟩
  | cons c rest ih =>
    have ended {next : PathPart}
        (read : steps? [.key (String.ofList run.reverse)] next rest = some steps) :
        ∃ head more, steps = .key head :: more ∧ head.toList <+: run.reverse ++ c :: rest := by
      obtain ⟨more, rfl⟩ := steps?_done read
      exact ⟨String.ofList run.reverse, more, rfl, by simp⟩
    have goesOn (read : steps? [] (.name (c :: run)) rest = some steps) :
        ∃ head more, steps = .key head :: more ∧ head.toList <+: run.reverse ++ c :: rest := by
      simpa using ih read
    rw [steps?.eq_def] at read
    simp only at read
    split at read
    next starts =>
      cases starts
      split at read
      · exact goesOn read
      · cases read
    next _ same =>
      cases same
      exact ended read
    next _ same =>
      cases same
      exact ended read
    next same _ _ =>
      cases same
      split at read
      · exact goesOn read
      · cases read
    all_goals contradiction

theorem lower_of_starts {s : String} {word : List Char} (starts : word <+: (lowerText s).toList) :
    ∀ c ∈ word, lowerChar c = c := by
  intro c member
  have present : c ∈ s.toList.map lowerChar := by
    simpa [lowerText] using starts.subset member
  obtain ⟨original, -, rfl⟩ := List.mem_map.mp present
  exact lowerChar_lowerChar original

/-- Every key leads into the section that its path starts with. -/
theorem pathOf_head (key : String) : ∃ head rest, pathOf key = .key head :: rest ∧
    lowerText head = head ∧ head.toList <+: (lowerText key).toList := by
  have named : ∃ head rest, pathOf key = .key head :: rest ∧
      head.toList <+: (lowerText key).toList := by
    rw [pathOf]
    cases read : steps? [] (.name []) (lowerText key).toList with
    | none => exact ⟨lowerText key, [], rfl, List.prefix_rfl⟩
    | some steps =>
      obtain ⟨head, rest, path, starts⟩ := steps?_head read
      rw [List.reverse_nil, List.nil_append] at starts
      exact ⟨head, rest, path, starts⟩
  obtain ⟨head, rest, path, starts⟩ := named
  exact ⟨head, rest, path, lowerText_of_lower (lower_of_starts starts), starts⟩

def Elsewhere (group key : String) : Prop :=
  ∃ head rest, pathOf key = .key head :: rest ∧ lowerText head = head ∧ head ≠ group

theorem layer_cons (root : Setting) (assignment : String × Setting)
    (assignments : List (String × Setting)) :
    root.layer (assignment :: assignments) =
      (assign assignment.2 (pathOf assignment.1) root).layer assignments := by
  rw [layer, layer, List.foldl_cons]

theorem given?_assign_elsewhere {group key : String} (elsewhere : Elsewhere group key) (name : String)
    (value root : Setting) :
    (assign value (pathOf key) root).given? group name = root.given? group name := by
  obtain ⟨head, rest, path, lower, other⟩ := elsewhere
  rw [path, given?_assign_other other lower]

theorem given?_layer_elsewhere {group : String} {assignments : List (String × Setting)}
    (elsewhere : ∀ assignment ∈ assignments, Elsewhere group assignment.1) (name : String)
    (root : Setting) : (root.layer assignments).given? group name = root.given? group name := by
  induction assignments generalizing root with
  | nil => rfl
  | cons assignment rest ih =>
    rw [layer_cons, ih fun assignment member => elsewhere assignment (List.mem_cons_of_mem _ member)]
    exact given?_assign_elsewhere (elsewhere assignment List.mem_cons_self) name _ root

def Agree (group name : String) (value : Setting) (assignments : List (String × Setting)) : Prop :=
  ∀ assignment ∈ assignments,
    (pathOf assignment.1 = [.key group, .key name] ∧ assignment.2 = value) ∨
      Elsewhere group assignment.1

theorem given?_layer_kept {group name : String} {value : Setting} (scalar : value.Scalar)
    (lower : lowerText name = name) {assignments : List (String × Setting)}
    (agree : Agree group name value assignments) {root : Setting}
    (given : root.given? group name = some (some value)) :
    (root.layer assignments).given? group name = some (some value) := by
  induction assignments generalizing root with
  | nil => exact given
  | cons assignment rest ih =>
    rw [layer_cons]
    apply ih fun assignment member => agree assignment (List.mem_cons_of_mem _ member)
    rcases agree assignment List.mem_cons_self with ⟨path, rfl⟩ | elsewhere
    · rw [path, given?_assign scalar group lower]
    · rw [given?_assign_elsewhere elsewhere, given]

/-- A field that all assignments to its section agree on is given so, if it is assigned at all. -/
theorem given?_layer {group name : String} {value : Setting} (scalar : value.Scalar)
    (lower : lowerText name = name) {assignments : List (String × Setting)}
    (agree : Agree group name value assignments) {assignment : String × Setting}
    (present : assignment ∈ assignments) (path : pathOf assignment.1 = [.key group, .key name])
    (root : Setting) : (root.layer assignments).given? group name = some (some value) := by
  induction assignments generalizing root with
  | nil => cases present
  | cons first rest ih =>
    have agreeToo : Agree group name value rest :=
      fun assignment member => agree assignment (List.mem_cons_of_mem _ member)
    rw [layer_cons]
    rcases List.mem_cons.mp present with rfl | later
    · rcases agree assignment List.mem_cons_self with ⟨-, same⟩ | ⟨head, steps, pathToo, -, other⟩
      · apply given?_layer_kept scalar lower agreeToo
        rw [path, same, given?_assign scalar group lower]
      · rw [path] at pathToo
        cases pathToo
        exact absurd rfl other
    · exact ih agreeToo later _

theorem ofTable?_optional {α : Type} {name : String} (named : name ≠ momentKey) {datum : α → Toml.Datum}
    {value : α → Setting} (same : ∀ a, ofDatum? (datum a) = some (value a)) (given : Option α) :
    ofTable? (given.map fun a => (name, datum a)).toList =
      some (.table (given.map fun a => (name, value a)).toList) := by
  cases given with
  | none => simp [ofTable?]
  | some a => simp [ofTable?, named, same, ofEntries?]

theorem field?_optional {α : Type} {name : String} (lower : lowerText name = name) {value : α → Setting}
    (scalar : ∀ a, (value a).Scalar) (given : Option α) :
    field? name (putAll (.table []) (given.map fun a => (name, value a)).toList) =
      some (given.map value) := by
  cases given with
  | none => simp [putAll, field?]
  | some a => simp [putAll, put_scalar (scalar a), lower, entries, updateEntry, field?]

theorem layer_sections (engine trace : List (String × Setting)) :
    (Setting.table []).layer [("engine", .table engine), ("trace", .table trace)] =
      .table [("engine", putAll (.table []) engine), ("trace", putAll (.table []) trace)] := by
  have first : pathOf "engine" = [.key "engine"] := by decide
  have second : pathOf "trace" = [.key "trace"] := by decide
  have lower : lowerText "engine" = "engine" := by decide
  have lowerToo : lowerText "trace" = "trace" := by decide
  simp [layer, first, second, assign, put, lower, lowerToo, entries, updateEntry]

/-- A document of two tables says of each field what stands in its table. -/
theorem said?_sections {text : String} {engine trace : List (String × Toml.Datum)}
    {depth switch : List (String × Setting)}
    (read : Toml.read? text = some [("engine", .table engine), ("trace", .table trace)])
    (first : ofTable? engine = some (.table depth)) (second : ofTable? trace = some (.table switch))
    (name : String) :
    said? text "engine" name = field? name (putAll (.table []) depth) ∧
      said? text "trace" name = field? name (putAll (.table []) switch) := by
  have named : "engine" ≠ momentKey := by decide
  have entries : ofDocument? text = some [("engine", .table depth), ("trace", .table switch)] := by
    simp [ofDocument?, read, ofTable?, named, ofDatum?, ofEntries?, first, second]
  constructor <;> simp [said?, entries, layer_sections, given?, Setting.entries, List.lookup_cons]

end Setting

namespace Variables

theorem starts_of_divide {word cs : List Char} (undotted : '.' ∉ word) (starts : word <+: divide cs) :
    word <+: cs := by
  fun_induction divide cs generalizing word with
  | case1 rest ih =>
    cases word with
    | nil => exact List.nil_prefix
    | cons c word =>
      obtain ⟨rfl, -⟩ := List.cons_prefix_cons.mp starts
      exact absurd List.mem_cons_self undotted
  | case2 c rest _ ih =>
    cases word with
    | nil => exact List.nil_prefix
    | cons first word =>
      obtain ⟨rfl, more⟩ := List.cons_prefix_cons.mp starts
      exact List.cons_prefix_cons.mpr ⟨rfl, ih (fun dot => undotted (List.mem_cons_of_mem _ dot)) more⟩
  | case3 => exact starts

theorem divide_lower {cs : List Char} (lower : ∀ c ∈ cs, lowerChar c = c) :
    (divide cs).map lowerChar = divide cs := by
  fun_induction divide cs with
  | case1 rest ih =>
    rw [List.map_cons, ih fun c member => lower c (by simp [member])]
    rfl
  | case2 c rest _ ih =>
    rw [List.map_cons, ih fun c member => lower c (by simp [member]), lower c List.mem_cons_self]
  | case3 => rfl

/-- A variable whose key starts with the name of a section has the name behind the mark. -/
theorem key?_starts {name key group : String} (read : key? name = some key)
    (undotted : '.' ∉ group.toList) (starts : group.toList <+: (lowerText key).toList) :
    mark ++ group.toList <+: name.toList.map lowerChar := by
  rw [key?] at read
  split at read
  next marked =>
    obtain ⟨rest, behind⟩ := List.isPrefixOf_iff_prefix.mp marked
    cases read
    have lower : ∀ c ∈ rest, lowerChar c = c := by
      intro c member
      have present : c ∈ name.toList.map lowerChar := behind ▸ List.mem_append_right mark member
      obtain ⟨original, -, rfl⟩ := List.mem_map.mp present
      exact lowerChar_lowerChar original
    rw [← behind, List.drop_left, lowerText, String.toList_ofList, String.toList_ofList,
      divide_lower lower] at starts
    rw [← behind]
    exact (List.prefix_append_right_inj mark).mpr (starts_of_divide undotted starts)
  next => cases read

theorem elsewhere_of_foreign {name key group : String} (read : key? name = some key)
    (undotted : '.' ∉ group.toList)
    (foreign : ¬ mark ++ group.toList <+: name.toList.map lowerChar) : Setting.Elsewhere group key := by
  obtain ⟨head, rest, path, lower, starts⟩ := Setting.pathOf_head key
  refine ⟨head, rest, path, lower, ?_⟩
  rintro rfl
  exact foreign (key?_starts read undotted starts)

theorem setting_scalar (text : String) : (setting text).Scalar := by
  intro entries same
  unfold setting at same
  dsimp only at same
  split at same
  · cases same
  · split at same
    · cases same
    · split at same
      · cases same
      · split at same <;> cases same

/-- A variable that alone leads into a section, to one of its fields. -/
structure Leads (name group field : String) : Prop where
  path : ∃ key, key? name = some key ∧ Setting.pathOf key = [.key group, .key field]
  lower : lowerText field = field
  undotted : '.' ∉ group.toList

/-- A field is given as its variable says, or else as it was before. -/
theorem given?_settings {name group field : String} (leads : Leads name group field)
    {environment : Environment} {value : Option Setting}
    (own : ∀ entry ∈ environment, mark ++ group.toList <+: entry.1.toList.map lowerChar →
      entry.1 = name ∧ value = some (setting entry.2))
    (present : ∀ v, value = some v → ∃ text, (name, text) ∈ environment) (root : Setting) :
    (root.layer (settings environment)).given? group field =
      value.elim (root.given? group field) fun v => some (some v) := by
  obtain ⟨key, read, path⟩ := leads.path
  have assigned {assignment : String × Setting} (member : assignment ∈ settings environment) :
      (Setting.pathOf assignment.1 = [.key group, .key field] ∧ value = some assignment.2) ∨
        Setting.Elsewhere group assignment.1 := by
    obtain ⟨entry, inside, made⟩ := List.mem_filterMap.mp member
    obtain ⟨keyToo, readToo, rfl⟩ := Option.map_eq_some_iff.mp made
    by_cases marked : mark ++ group.toList <+: entry.1.toList.map lowerChar
    · obtain ⟨same, given⟩ := own entry inside marked
      rw [same, read] at readToo
      cases readToo
      exact .inl ⟨path, given⟩
    · exact .inr (elsewhere_of_foreign readToo leads.undotted marked)
  cases value with
  | none =>
    apply Setting.given?_layer_elsewhere
    intro assignment member
    rcases assigned member with ⟨-, given⟩ | elsewhere
    · cases given
    · exact elsewhere
  | some v =>
    obtain ⟨text, inside⟩ := present v rfl
    have member : (key, setting text) ∈ settings environment := by
      rw [settings, List.mem_filterMap]
      exact ⟨(name, text), inside, by simp [read]⟩
    have scalar : v.Scalar := by
      rcases assigned member with ⟨-, given⟩ | ⟨head, rest, pathToo, -, other⟩
      · rw [Option.some.inj given]
        exact setting_scalar text
      · rw [path] at pathToo
        cases pathToo
        exact absurd rfl other
    refine Setting.given?_layer scalar leads.lower (fun assignment inside => ?_) member path root
    rcases assigned inside with ⟨pathToo, given⟩ | elsewhere
    · exact .inl ⟨pathToo, (Option.some.inj given).symm⟩
    · exact .inr elsewhere

theorem lowerChar_digit {c : Char} (digit : c.isDigit = true) : lowerChar c = c := by
  have bounds : 48 ≤ c.toNat ∧ c.toNat ≤ 57 := by
    simpa [Char.isDigit, UInt32.le_iff_toNat_le] using digit
  have ascii : c.toNat < 128 := Nat.lt_of_le_of_lt bounds.2 (by decide)
  exact ascii_forall (fun c => c.isDigit = true → lowerChar c = c) (by decide) ascii digit

theorem natural?_digit {cs : List Char} {n : Nat} (read : Decimal.natural? cs = some n) :
    ∃ c ∈ cs, c.isDigit = true := by
  cases cs with
  | nil => cases read
  | cons c cs =>
    rw [Decimal.natural?] at read
    split at read
    · cases read
    · split at read
      next digits => exact ⟨c, List.mem_cons_self, List.all_eq_true.mp digits c List.mem_cons_self⟩
      next => cases read

theorem signed?_digit {cs : List Char} {n : Int} (read : Decimal.signed? cs = some n) :
    ∃ c ∈ cs, c.isDigit = true := by
  have behind {sign : Char} {run : List Char} {n : Nat} (read : Decimal.natural? run = some n) :
      ∃ c ∈ sign :: run, c.isDigit = true := by
    obtain ⟨c, member, digit⟩ := natural?_digit read
    exact ⟨c, List.mem_cons_of_mem _ member, digit⟩
  unfold Decimal.signed? at read
  split at read
  · obtain ⟨_, lifted, -⟩ := Option.map_eq_some_iff.mp read
    obtain ⟨_, found, -⟩ := Option.bind_eq_some_iff.mp lifted
    exact behind found
  · obtain ⟨_, lifted, -⟩ := Option.map_eq_some_iff.mp read
    obtain ⟨_, found, -⟩ := Option.bind_eq_some_iff.mp lifted
    unfold Decimal.unsigned? at found
    split at found
    · exact behind found
    · exact natural?_digit found

theorem setting_integer {text : String} {n : Nat} (spelled : Decimal.signed? text.toList = some (n : Int))
    (small : (n : Int) ≤ Int64.maxValue.toInt) : setting text = .integer (Int64.ofInt n) := by
  have noWord {word : String} (letters : word.toList.any Char.isDigit = false) :
      lowerText text ≠ word := by
    rintro rfl
    obtain ⟨c, member, digit⟩ := signed?_digit spelled
    have kept : c ∈ (lowerText text).toList := by
      rw [lowerText, String.toList_ofList, List.mem_map]
      exact ⟨c, member, lowerChar_digit digit⟩
    exact List.any_eq_false.mp letters c kept digit
  have fits : Int64.minValue.toInt ≤ (n : Int) := Int.le_trans (by decide) (Int.natCast_nonneg n)
  rw [setting, if_neg (noWord (by decide)), if_neg (noWord (by decide))]
  simp only [spelled, Option.filter_some, decide_eq_true fits, decide_eq_true small, Bool.and_self,
    if_true]

theorem setting_boolean {text : String} {b : Bool} (spelled : lowerText text = Configuration.boolText b) :
    setting text = .boolean b := by
  rw [setting, spelled]
  cases b <;> rfl

end Variables

namespace Configuration

namespace Layer

def depth (layer : Layer) : Option UInt64 := layer.maxDepth.map UInt64.ofNat

/-- The text can be read as a document, and it gives these values and no others to the two fields. -/
structure StandsIn (layer : Layer) (text : String) : Prop where
  maxDepth : Setting.said? text "engine" "max_depth" =
    some (layer.maxDepth.map fun n : Nat => .integer (Int64.ofInt n))
  traceEnabled : Setting.said? text "trace" "enabled" = some (layer.traceEnabled.map .boolean)

/-- There is a document for all values. -/
theorem standsIn_document (layer : Layer) : layer.StandsIn layer.document := by
  have integer (n : Nat) : Setting.ofDatum? (.integer (Int64.ofInt n)) = some (.integer (Int64.ofInt n)) := by
    rw [Setting.ofDatum?]
  have boolean (b : Bool) : Setting.ofDatum? (.boolean b) = some (.boolean b) := by
    rw [Setting.ofDatum?]
  have engine : Setting.ofTable? layer.depthEntries = some (.table _) :=
    Setting.ofTable?_optional (by decide) integer layer.maxDepth
  have trace : Setting.ofTable? layer.switchEntries = some (.table _) :=
    Setting.ofTable?_optional (by decide) boolean layer.traceEnabled
  have said := Setting.said?_sections layer.read?_document engine trace
  constructor
  · rw [(said "max_depth").1]
    exact Setting.field?_optional (by decide) (fun n _ same => by cases same) layer.maxDepth
  · rw [(said "enabled").2]
    exact Setting.field?_optional (by decide) (fun b _ same => by cases same) layer.traceEnabled

/-- The variables that name the two settings spell these values, and no other variable leads to a
section of theirs. Names are compared without regard to case. -/
structure SetIn (layer : Layer) (environment : Environment) : Prop where
  depthSet : ∀ n, layer.maxDepth = some n → ∃ text, ("KERNEL_ENGINE__MAX_DEPTH", text) ∈ environment
  switchSet : ∀ b, layer.traceEnabled = some b → ∃ text, ("KERNEL_TRACE__ENABLED", text) ∈ environment
  depthSpelled : ∀ entry ∈ environment, "kernel_engine".toList <+: entry.1.toList.map lowerChar →
    entry.1 = "KERNEL_ENGINE__MAX_DEPTH" ∧
      ∃ n : Nat, layer.maxDepth = some n ∧ Decimal.signed? entry.2.toList = some (n : Int)
  switchSpelled : ∀ entry ∈ environment, "kernel_trace".toList <+: entry.1.toList.map lowerChar →
    entry.1 = "KERNEL_TRACE__ENABLED" ∧
      ∃ b, layer.traceEnabled = some b ∧ lowerText entry.2 = boolText b

variable {layer : Layer} {environment : Environment}

theorem SetIn.given?_depth (isSet : layer.SetIn environment) (root : Setting) :
    (root.layer (Variables.settings environment)).given? "engine" "max_depth" =
      (layer.maxDepth.map fun n : Nat => Setting.integer (Int64.ofInt n)).elim
        (root.given? "engine" "max_depth") fun v => some (some v) := by
  have leads : Variables.Leads "KERNEL_ENGINE__MAX_DEPTH" "engine" "max_depth" :=
    ⟨⟨"engine.max_depth", by decide, by decide⟩, by decide, by decide⟩
  apply Variables.given?_settings leads
  · intro entry member marked
    obtain ⟨named, n, given, spelled⟩ := isSet.depthSpelled entry member marked
    rw [given, Variables.setting_integer spelled (layer.small n given)]
    exact ⟨named, rfl⟩
  · intro v given
    obtain ⟨n, found, -⟩ := Option.map_eq_some_iff.mp given
    exact isSet.depthSet n found

theorem SetIn.given?_switch (isSet : layer.SetIn environment) (root : Setting) :
    (root.layer (Variables.settings environment)).given? "trace" "enabled" =
      (layer.traceEnabled.map Setting.boolean).elim
        (root.given? "trace" "enabled") fun v => some (some v) := by
  have leads : Variables.Leads "KERNEL_TRACE__ENABLED" "trace" "enabled" :=
    ⟨⟨"trace.enabled", by decide, by decide⟩, by decide, by decide⟩
  apply Variables.given?_settings leads
  · intro entry member marked
    obtain ⟨named, b, given, spelled⟩ := isSet.switchSpelled entry member marked
    rw [given, Variables.setting_boolean spelled]
    exact ⟨named, rfl⟩
  · intro v given
    obtain ⟨b, found, -⟩ := Option.map_eq_some_iff.mp given
    exact isSet.switchSet b found

end Layer

theorem depth?_integer {n : Nat} (small : (n : Int) ≤ Int64.maxValue.toInt) :
    (Setting.integer (Int64.ofInt n)).depth? = some (UInt64.ofNat n) := by
  have exact : (Int64.ofInt n).toInt = n := by
    apply Int64.toInt_ofInt_of_le
    · exact Int.le_trans (by decide) (Int.natCast_nonneg n)
    · exact Int.lt_of_le_of_lt small (by decide)
  rw [Setting.depth?, exact, if_pos (Int.natCast_nonneg n), Int.toNat_natCast]

/-- A text that is neither digits nor a word for a truth value is no depth. -/
theorem depth?_word {word : String} (unnumbered : Decimal.unsigned? word.toList = none)
    (unworded : lowerText word ∉ ["true", "on", "yes", "false", "off", "no"]) :
    (Setting.text word).depth? = none := by
  simp only [List.mem_cons, List.not_mem_nil, or_false, not_or] at unworded
  rw [Setting.depth?, unnumbered]
  split <;> simp_all

theorem ofSettings?_eq (root : Setting) :
    ofSettings? root =
      ((root.given? "engine" "max_depth").bind (·.elim (some 512) Setting.depth?)).bind fun depth =>
        ((root.given? "trace" "enabled").bind (·.elim (some false) Setting.switch?)).map fun enabled =>
          ⟨depth, enabled⟩ := by
  rw [ofSettings?, Setting.fieldOr_eq, Setting.fieldOr_eq]
  simp only [Option.map_eq_bind]
  rfl

/-- With no file of variables here or above, the configuration is converted from the document and the
environment. -/
theorem resolve_eq {surroundings : Surroundings} {request : Request} {text : String}
    {entries : List (String × Setting)} (unaided : surroundings.directory.LacksUpward ".env")
    (found : document surroundings.directory
      (requiredPath? request.path surroundings.environment) = .ok text)
    (readable : Setting.ofDocument? text = some entries) :
    resolve surroundings request =
      match ofSettings? (((Setting.table []).layer entries).layer
        (Variables.settings surroundings.environment)) with
      | none => .error .conversion
      | some config => override request config := by
  have merged : settings text surroundings.environment = .ok
      (((Setting.table []).layer entries).layer (Variables.settings surroundings.environment)) := by
    rw [settings, readable]
  rw [resolve, environment_unaided unaided, found]
  change Except.bind (settings text surroundings.environment) _ = _
  rw [merged]
  rfl

/-- The two settings come from what the document says of them, where no variable says anything. -/
theorem resolve_said {surroundings : Surroundings} {request : Request} {text : String}
    {ambient : Layer} {depth switch : Option Setting}
    (unaided : surroundings.directory.LacksUpward ".env")
    (found : document surroundings.directory
      (requiredPath? request.path surroundings.environment) = .ok text)
    (isSet : ambient.SetIn surroundings.environment)
    (saidDepth : Setting.said? text "engine" "max_depth" = some depth)
    (saidSwitch : Setting.said? text "trace" "enabled" = some switch) :
    resolve surroundings request =
      match
        (((ambient.maxDepth.map fun n : Nat => Setting.integer (Int64.ofInt n)) <|> depth).elim
          (some 512) Setting.depth?).bind fun depth =>
        (((ambient.traceEnabled.map Setting.boolean) <|> switch).elim
          (some false) Setting.switch?).map fun enabled => (⟨depth, enabled⟩ : Configuration) with
      | none => .error .conversion
      | some config => override request config := by
  obtain ⟨entries, readable, givenDepth⟩ := Option.bind_eq_some_iff.mp saidDepth
  obtain ⟨_, again, givenSwitch⟩ := Option.bind_eq_some_iff.mp saidSwitch
  cases readable.symm.trans again
  have covered (upper lower : Option Setting) :
      upper.elim (some lower) (fun v => some (some v)) = some (upper <|> lower) := by
    cases upper <;> rfl
  rw [resolve_eq unaided found readable, ofSettings?_eq, isSet.given?_depth, isSet.given?_switch,
    givenDepth, givenSwitch, covered, covered, Option.bind_some, Option.bind_some]

theorem depth_layers (ambient file : Layer) :
    ((ambient.maxDepth.map fun n : Nat => Setting.integer (Int64.ofInt n)) <|>
        file.maxDepth.map fun n : Nat => Setting.integer (Int64.ofInt n)).elim
      (some 512) Setting.depth? = some ((ambient.depth <|> file.depth).getD 512) := by
  cases upper : ambient.maxDepth with
  | some n => simp [Layer.depth, upper, depth?_integer (ambient.small n upper)]
  | none =>
    cases lower : file.maxDepth with
    | some n => simp [Layer.depth, upper, lower, depth?_integer (file.small n lower)]
    | none => simp [Layer.depth, upper, lower]

theorem switch_layers (upper lower : Option Bool) :
    ((upper.map Setting.boolean) <|> lower.map Setting.boolean).elim (some false) Setting.switch? =
      some ((upper <|> lower).getD false) := by
  cases upper <;> cases lower <;> rfl

/-- What is in force: what the caller asks for, or else what the variables say, or else what the document
says, or else the default, and this for each setting on its own. Only a depth of zero that is in
force is refused. Where the document has a word for a depth, nothing but a variable helps. -/
theorem resolve_layers (surroundings : Surroundings) (request : Request) {text : String}
    {ambient : Layer} (unaided : surroundings.directory.LacksUpward ".env")
    (found : document surroundings.directory
      (requiredPath? request.path surroundings.environment) = .ok text)
    (isSet : ambient.SetIn surroundings.environment) :
    (∀ file : Layer, file.StandsIn text →
      let depth := (request.maxDepth <|> ambient.depth <|> file.depth).getD 512
      let enabled := (request.traceEnabled <|> ambient.traceEnabled <|> file.traceEnabled).getD false
      resolve surroundings request =
        if depth = 0 then .error .zeroDepth else .ok ⟨depth, enabled⟩) ∧
    ∀ (word : String) (enabled : Option Bool),
      Decimal.unsigned? word.toList = none →
      lowerText word ∉ ["true", "on", "yes", "false", "off", "no"] →
      Setting.said? text "engine" "max_depth" = some (some (.text word)) →
      Setting.said? text "trace" "enabled" = some (enabled.map .boolean) →
      ((resolve surroundings request).mapError Problem.message = .error "Invalid configuration" ↔
        ambient.maxDepth = none) := by
  constructor
  · intro file stands depth enabled
    rw [resolve_said unaided found isSet stands.maxDepth stands.traceEnabled, depth_layers, switch_layers]
    have asked {α : Type} (given below : Option α) (standard : α) :
        (given <|> below).getD standard = given.getD (below.getD standard) := by
      cases given <;> rfl
    simp only [depth, enabled, asked]
    rfl
  · intro word enabled unnumbered unworded worded switched
    rw [resolve_said unaided found isSet worded switched, switch_layers]
    cases supplied : ambient.maxDepth with
    | none =>
      have unknown : (((none : Option Nat).map fun n : Nat => Setting.integer (Int64.ofInt n)) <|>
          some (Setting.text word)).elim (some 512) Setting.depth? = none := depth?_word unnumbered unworded
      rw [unknown]
      exact iff_of_true rfl rfl
    | some n =>
      have known : (((some n).map fun n : Nat => Setting.integer (Int64.ofInt n)) <|>
          some (Setting.text word)).elim (some 512) Setting.depth? = some (UInt64.ofNat n) :=
        depth?_integer (ambient.small n supplied)
      rw [known]
      refine iff_of_false ?_ (Option.some_ne_none n)
      simp only [Option.bind_some, Option.map_some, override]
      split
      · intro failed
        have texts : Problem.zeroDepth.message = "Invalid configuration" := Except.error.inj failed
        exact absurd texts (by decide)
      · intro failed
        cases failed

/-- A variable covers a zero and a word in the document, and the caller covers a zero only. -/
theorem resolve_layers_covered :
    let environment : Environment := [("KERNEL_ENGINE__MAX_DEPTH", "+7"), ("KERNEL_LOG", "x")]
    let zero : String := "[engine]\nmax_depth = 0\n\n[trace]\nenabled = true\n"
    let word : String := "engine.max_depth = \"deep\"\n"
    let directory (text : String) : Directory := ⟨"/work", [("kernel.toml", text)]⟩
    resolve ⟨directory zero, environment⟩ ⟨none, none, some false⟩ = .ok ⟨7, false⟩ ∧
    resolve ⟨directory zero, []⟩ ⟨none, some 5, none⟩ = .ok ⟨5, true⟩ ∧
    resolve ⟨directory zero, environment⟩ ⟨none, some 0, none⟩ = .error .zeroDepth ∧
    (resolve ⟨directory word, []⟩ ⟨none, some 5, none⟩).mapError Problem.message =
      .error "Invalid configuration" ∧
    (resolve ⟨directory word, environment⟩ ⟨none, some 5, none⟩).mapError Problem.message ≠
      .error "Invalid configuration" := by
  intro environment zero word directory
  let file : Layer := ⟨some 0, some true, by rintro n ⟨⟩; decide⟩
  let ambient : Layer := ⟨some 7, none, by rintro n ⟨⟩; decide⟩
  let unset : Layer := ⟨none, none, by rintro n ⟨⟩⟩
  have isSet : ambient.SetIn environment := by
    have pair {entry : String × String} (member : entry ∈ environment) :
        entry = ("KERNEL_ENGINE__MAX_DEPTH", "+7") ∨ entry = ("KERNEL_LOG", "x") := by
      simpa [environment] using member
    constructor
    · exact fun n _ => ⟨"+7", List.mem_cons_self⟩
    · rintro b ⟨⟩
    · intro entry member marked
      rcases pair member with rfl | rfl
      · exact ⟨rfl, 7, rfl, by decide⟩
      · exact absurd marked (by decide)
    · intro entry member marked
      rcases pair member with rfl | rfl <;> exact absurd marked (by decide)
  have setNowhere : unset.SetIn [] := by
    constructor <;> simp [unset]
  have stands : file.StandsIn zero := by
    have spelled : file.document = zero := by decide +kernel
    exact spelled ▸ file.standsIn_document
  have zeroAlone : (directory zero).LacksUpward ".env" := by decide +kernel
  have wordAlone : (directory word).LacksUpward ".env" := by decide +kernel
  have zeroFound : find? (directory zero) "kernel" = some zero := by decide +kernel
  have wordFound : find? (directory word) "kernel" = some word := by decide +kernel
  have saidDepth : Setting.said? word "engine" "max_depth" = some (some (.text "deep")) := by
    have text : (Setting.said? word "engine" "max_depth").bind (·.bind Setting.text?) = some "deep" := by
      decide +kernel
    obtain ⟨given, said, text⟩ := Option.bind_eq_some_iff.mp text
    obtain ⟨value, rfl, text⟩ := Option.bind_eq_some_iff.mp text
    rw [said, Setting.eq_text text]
  have saidSwitch : Setting.said? word "trace" "enabled" = some ((none : Option Bool).map .boolean) := by
    have missing : (Setting.said? word "trace" "enabled").map Option.isNone = some true := by
      decide +kernel
    obtain ⟨given, said, missing⟩ := Option.map_eq_some_iff.mp missing
    rw [said, Option.isNone_iff_eq_none.mp missing]
    rfl
  have sought {text : String} (found : find? (directory text) "kernel" = some text) :
      document (directory text) none = .ok text := by
    rw [document, found]
    rfl
  refine ⟨?_, ?_, ?_, ?_, ?_⟩
  · exact (resolve_layers ⟨directory zero, environment⟩ ⟨none, none, some false⟩
      zeroAlone (sought zeroFound) isSet).1 file stands
  · exact (resolve_layers ⟨directory zero, []⟩ ⟨none, some 5, none⟩
      zeroAlone (sought zeroFound) setNowhere).1 file stands
  · exact (resolve_layers ⟨directory zero, environment⟩ ⟨none, some 0, none⟩
      zeroAlone (sought zeroFound) isSet).1 file stands
  · exact ((resolve_layers ⟨directory word, []⟩ ⟨none, some 5, none⟩
      wordAlone (sought wordFound) setNowhere).2
        "deep" none (by decide) (by decide) saidDepth saidSwitch).mpr rfl
  · have supplied := (resolve_layers ⟨directory word, environment⟩ ⟨none, some 5, none⟩
      wordAlone (sought wordFound) isSet).2 "deep" none (by decide) (by decide) saidDepth saidSwitch
    exact fun failed => Option.some_ne_none _ (supplied.mp failed)

/-- Names of variables are compared without regard to case: a variable in lower case is one of the
program's, whatever the others are. -/
theorem resolve_layers_lower_case :
    ¬ "KERNEL_".toList <+: "kernel_engine__max_depth".toList ∧
    (resolve ⟨⟨"/work", []⟩, [("kernel_engine__max_depth", "4")]⟩ ⟨none, none, none⟩).toOption =
      some ⟨4, false⟩ := by
  decide +kernel

end Configuration

end FrameMachine
