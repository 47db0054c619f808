import Quarry.Proofs.Encoding
import Quarry.Proofs.ListText
import Quarry.Proofs.RecordText
import Quarry.Settings

/-! Settings in the text of an object, whose members come in any order. Main statement: settings are read
exactly if every key is known, none comes twice and each value is of the kind of its key. A key that is
absent leaves its setting as it is by default, and the seeds are located in the folder of the file. -/

namespace Quarry

open Json

/-! The values of settings. -/

namespace Json

variable {value space rest left : List Char} {wanted : String} {flag : Bool} {paths : List String}

/-- The words for the two truth values. -/
inductive Truth : List Char → Bool → Prop where
  | yes : Truth "true".toList true
  | no : Truth "false".toList false

/-- The text of a list of strings. -/
def TextList : List Char → List String → Prop :=
  ListText fun value text => Stands value (.text text)

theorem Truth.run (h : Truth value flag) (rest : List Char) :
    Reader.boolean.run (value ++ rest) = .ok (flag, rest) := by
  cases h <;> rfl

/-- A value other than the two words starts with neither of their first letters. -/
theorem IsValue.truth_or (h : IsValue value) : (∃ flag, Truth value flag) ∨
    ∃ c more, value = c :: more ∧ isSpace c = false ∧ c ≠ 't' ∧ c ≠ 'f' := by
  cases h with
  | word h =>
    simp only [List.mem_cons, List.not_mem_nil, or_false] at h
    rcases h with rfl | rfl | rfl
    · exact Or.inr ⟨'n', _, rfl, by decide, by decide, by decide⟩
    · exact Or.inl ⟨true, .yes⟩
    · exact Or.inl ⟨false, .no⟩
  | number h =>
    obtain ⟨c, more, rfl, starts⟩ := h.exists_eq_cons
    exact Or.inr ⟨c, more, rfl, isSpace_of_starts starts, ne_of_starts starts (by decide) rfl,
      ne_of_starts starts (by decide) rfl⟩
  | text h => exact Or.inr ⟨'"', _, rfl, by decide, by decide, by decide⟩
  | @nested frame =>
    refine Or.inr ⟨frame.opening, _, rfl, ?_⟩
    cases frame <;> decide

theorem run_boolean_eq_ok_iff (h : IsValue value) (spaces : Spaces space) :
    Reader.boolean.run (space ++ (value ++ rest)) = .ok (flag, left) ↔
      Truth value flag ∧ left = rest := by
  have start : Reader.boolean.run (space ++ (value ++ rest)) = Reader.boolean.run (value ++ rest) := by
    simp only [Reader.boolean, Reader.readBooleanValue, skipSpace_spaces spaces]
  rw [start]
  constructor
  · intro run
    rcases h.truth_or with ⟨flag', truth⟩ | ⟨c, more, rfl, visible, other, other'⟩
    · rw [truth.run] at run
      cases run
      exact ⟨truth, rfl⟩
    · simp [Reader.boolean, Reader.readBooleanValue, skipSpace_cons visible, other, other'] at run
  · rintro ⟨truth, rfl⟩
    exact truth.run left

theorem Stands.isValue {found : String} (h : Stands value (.text found)) : IsValue value := by
  obtain ⟨letters, rfl, spells⟩ := h
  exact IsValue.text spells.textLiteral

theorem run_textList_eq_ok_iff (h : IsValue value) (spaces : Spaces space) :
    (Reader.list (Reader.text wanted)).run (space ++ (value ++ rest)) = .ok (paths, left) ↔
      TextList value paths ∧ left = rest := by
  refine run_listText_eq_ok_iff (fun _ _ => Stands.isValue) ?_ h spaces
  intro value h found rest left _
  exact run_text_eq_ok_iff h (List.forall_mem_nil _)

end Json

namespace Settings

/-! Settings by key. -/

/-- The value of one setting. -/
inductive Value where
  | logFilter (filter : String)
  | pretty (flag : Bool)
  | seeds (paths : List String)

def Value.key : Value → Key
  | .logFilter _ => .logFilter
  | .pretty _ => .pretty
  | .seeds _ => .seeds

/-- A text that stands for the value of a setting. -/
def Value.Meant (text : List Char) : Value → Prop
  | .logFilter filter => Stands text (.text filter)
  | .pretty flag => Truth text flag
  | .seeds paths => TextList text paths

/-- The values of one key are those of one constructor. -/
theorem Value.exists_key_eq_iff {key : Key} {p : Value → Prop} :
    (∃ found : Value, found.key = key ∧ p found) ↔ match key with
      | .logFilter => ∃ filter, p (.logFilter filter)
      | .pretty => ∃ flag, p (.pretty flag)
      | .seeds => ∃ paths, p (.seeds paths) := by
  constructor
  · rintro ⟨found, rfl, h⟩
    cases found <;> exact ⟨_, h⟩
  · intro h
    cases key <;>
    · obtain ⟨_, h⟩ := h
      exact ⟨_, rfl, h⟩

variable {key : Key} {found : Value} {value space rest left : List Char} {name : String}
  {member : String × List Char} {members : List (String × List Char)}

namespace Draft

variable {draft next final : Draft}

def get? (draft : Draft) : Key → Option Value
  | .logFilter => draft.logFilter.map .logFilter
  | .pretty => draft.pretty.map .pretty
  | .seeds => draft.seeds.map .seeds

def set (draft : Draft) : Value → Draft
  | .logFilter filter => { draft with logFilter := some filter }
  | .pretty flag => { draft with pretty := some flag }
  | .seeds paths => { draft with seeds := some paths }

theorem has_eq (draft : Draft) (key : Key) : draft.has key = (draft.get? key).isSome := by
  cases key <;> simp [has, get?]

theorem get?_set (draft : Draft) (found : Value) : (draft.set found).get? found.key = some found := by
  cases found <;> rfl

theorem get?_set_of_ne (h : key ≠ found.key) : (draft.set found).get? key = draft.get? key := by
  cases found <;> cases key <;> first | rfl | exact absurd rfl h

theorem run_fill_eq_ok_iff (h : IsValue value) (spaces : Spaces space) :
    (draft.fill key).run (space ++ (value ++ rest)) = .ok (next, left) ↔
      (∃ found : Value, found.key = key ∧ found.Meant value ∧ next = draft.set found) ∧ left = rest := by
  cases key <;>
  · simp only [fill, Reader.run_map_eq_ok_iff, run_text_eq_ok_iff h spaces,
      run_boolean_eq_ok_iff h spaces, run_textList_eq_ok_iff h spaces, Value.exists_key_eq_iff,
      Value.Meant, set, @eq_comm _ next]
    constructor
    · rintro ⟨found, ⟨meant, rfl⟩, eq⟩
      exact ⟨⟨found, meant, eq⟩, rfl⟩
    · rintro ⟨⟨found, meant, eq⟩, rfl⟩
      exact ⟨found, ⟨meant, rfl⟩, eq⟩

/-! Members. -/

/-- What one member makes of a draft: its key is known and new. -/
inductive Takes (draft : Draft) : String × List Char → Draft → Prop where
  | parts {value : List Char} {found : Value} (new : draft.get? found.key = none)
      (meant : found.Meant value) : Takes draft (found.key.name, value) (draft.set found)

theorem takes_iff : draft.Takes (name, value) next ↔
    ∃ found : Value, found.key.name = name ∧ draft.get? found.key = none ∧ found.Meant value ∧
      next = draft.set found := by
  constructor
  · intro takes
    cases takes with
    | parts new meant => exact ⟨_, rfl, new, meant, rfl⟩
  · rintro ⟨found, rfl, new, meant, rfl⟩
    exact Takes.parts new meant

/-- One value is read as what its member makes of the draft. -/
theorem reads : Reads Draft.member Takes := by
  intro draft next name space value rest left h spaces ended
  rw [takes_iff]
  cases known : Key.ofName? name with
  | none =>
    have unknown : ∀ found : Value, found.key.name ≠ name := by
      rintro found rfl
      rw [Key.ofName?_name] at known
      cases known
    simp [Draft.member, known, unknown]
  | some key =>
    obtain rfl := Key.ofName?_eq_some_iff.1 known
    simp only [Draft.member, known, has_eq, Key.name_eq_name_iff]
    cases new : draft.get? key with
    | none =>
      simp only [Option.isSome_none, Bool.false_eq_true, if_false, Except.ok.injEq, exists_eq_left',
        run_fill_eq_ok_iff h spaces]
      constructor
      · rintro ⟨⟨found, rfl, meant, eq⟩, end'⟩
        exact ⟨⟨found, rfl, new, meant, eq⟩, end'⟩
      · rintro ⟨⟨found, rfl, -, meant, eq⟩, end'⟩
        exact ⟨⟨found, rfl, meant, eq⟩, end'⟩
    | some old =>
      simp only [Option.isSome_some, if_true, reduceCtorEq, false_and, exists_false, false_iff]
      rintro ⟨⟨found, rfl, new', -⟩, -⟩
      rw [new] at new'
      cases new'

/-- One member sets its own key and leaves the others. -/
theorem Takes.get? (h : draft.Takes member next) (key : Key) :
    next.get? key = draft.get? key ∧ key.name ≠ member.1 ∨ draft.get? key = none ∧ key.name = member.1 ∧
      ∃ found : Value, next.get? key = some found ∧ found.Meant member.2 := by
  obtain ⟨name, value⟩ := member
  obtain ⟨found, rfl, new, meant, rfl⟩ := takes_iff.1 h
  by_cases same : key = found.key
  · subst same
    exact Or.inr ⟨new, rfl, found, get?_set draft found, meant⟩
  · exact Or.inl ⟨get?_set_of_ne same, fun eq => same (Key.name_inj eq)⟩

/-- What a list of members has set, and what it has left. -/
theorem get?_of_takesAll (h : TakesAll Takes draft members final) (key : Key) :
    final.get? key = draft.get? key ∧ key.name ∉ members.map Prod.fst ∨
      draft.get? key = none ∧ ∃ found : Value, final.get? key = some found ∧
        ∃ value, (key.name, value) ∈ members ∧ found.Meant value := by
  induction h with
  | nil => exact Or.inl ⟨rfl, List.not_mem_nil⟩
  | @cons draft next final member members first more ih =>
    rcases first.get? key with ⟨kept, other⟩ | ⟨new, same, found, set, meant⟩
    · rcases ih with ⟨kept', other'⟩ | ⟨new, found, set, value, mem, meant⟩
      · refine Or.inl ⟨kept'.trans kept, ?_⟩
        simpa using ⟨other, by simpa using other'⟩
      · exact Or.inr ⟨kept ▸ new, found, set, value, List.mem_cons_of_mem _ mem, meant⟩
    -- The key is set by now, so no member behind the first has it.
    · rcases ih with ⟨kept', other'⟩ | ⟨new', -⟩
      · refine Or.inr ⟨new, found, kept'.trans set, member.2, ?_, meant⟩
        rw [same]
        exact List.mem_cons_self
      · rw [set] at new'
        cases new'

end Draft

/-- A member whose key is known and whose value is of the kind of its key. -/
def Fits (member : String × List Char) : Prop :=
  ∃ found : Value, found.key.name = member.1 ∧ found.Meant member.2

/-- Members are taken into a draft if each of them fits and none has a key that was set before. -/
theorem Draft.exists_takesAll_iff {draft : Draft} : (∃ final, TakesAll Takes draft members final) ↔
    (∀ member ∈ members, Fits member) ∧ (members.map Prod.fst).Nodup ∧
      ∀ key : Key, key.name ∈ members.map Prod.fst → draft.get? key = none := by
  induction members generalizing draft with
  | nil => exact ⟨fun _ => ⟨by simp, by simp, by simp⟩, fun _ => ⟨draft, .nil⟩⟩
  | cons member members ih =>
    obtain ⟨name, value⟩ := member
    simp only [takesAll_cons_iff, @exists_comm Draft, exists_and_left, ih]
    rw [List.forall_mem_cons, List.map_cons, List.nodup_cons]
    simp only [List.mem_cons]
    constructor
    · rintro ⟨next, takes, fits, nodup, new⟩
      obtain ⟨found, rfl, new', meant, rfl⟩ := takes_iff.1 takes
      have absent : found.key.name ∉ members.map Prod.fst := by
        intro mem
        have none := new found.key mem
        rw [get?_set] at none
        cases none
      refine ⟨⟨⟨found, rfl, meant⟩, fits⟩, ⟨absent, nodup⟩, ?_⟩
      rintro key (same | mem)
      · rw [Key.name_inj same]
        exact new'
      · have other : key ≠ found.key := by
          rintro rfl
          exact absent mem
        rw [← get?_set_of_ne other]
        exact new key mem
    · rintro ⟨⟨⟨found, rfl, meant⟩, fits⟩, ⟨absent, nodup⟩, new⟩
      refine ⟨draft.set found, Takes.parts (new _ (Or.inl rfl)) meant, fits, nodup, ?_⟩
      intro key mem
      rw [get?_set_of_ne]
      · exact new key (Or.inr mem)
      · rintro rfl
        exact absent mem

/-! What the members of an object must be. -/

/-- Every key is known and comes once, and every value is of the kind of its key. -/
structure Accepted (members : List (String × List Char)) : Prop where
  known : ∀ member ∈ members, member.1 ∈ ["log_filter", "pretty", "seed_files"]
  once : (members.map Prod.fst).Nodup
  logFilter : ∀ value, ("log_filter", value) ∈ members → ∃ filter, Stands value (.text filter)
  pretty : ∀ value, ("pretty", value) ∈ members → ∃ flag, Truth value flag
  seeds : ∀ value, ("seed_files", value) ∈ members → ∃ paths, TextList value paths

theorem fits_name_iff : Fits (key.name, value) ↔ ∃ found : Value, found.key = key ∧ found.Meant value := by
  simp only [Fits, Key.name_eq_name_iff]

theorem accepted_iff : Accepted members ↔
    (∀ member ∈ members, Fits member) ∧ (members.map Prod.fst).Nodup := by
  constructor
  · rintro ⟨known, once, logFilter, pretty, seeds⟩
    refine ⟨?_, once⟩
    rintro ⟨name, value⟩ mem
    have name' := known _ mem
    simp only [List.mem_cons, List.not_mem_nil, or_false] at name'
    rcases name' with rfl | rfl | rfl
    · obtain ⟨filter, stands⟩ := logFilter value mem
      exact ⟨.logFilter filter, rfl, stands⟩
    · obtain ⟨flag, truth⟩ := pretty value mem
      exact ⟨.pretty flag, rfl, truth⟩
    · obtain ⟨paths, list⟩ := seeds value mem
      exact ⟨.seeds paths, rfl, list⟩
  · rintro ⟨fits, once⟩
    refine ⟨?_, once, fun value mem => ?_, fun value mem => ?_, fun value mem => ?_⟩
    · intro member mem
      obtain ⟨found, name, -⟩ := fits member mem
      rw [← name]
      cases found.key <;> decide
    · have fits' : Fits (Key.logFilter.name, value) := fits _ mem
      rwa [fits_name_iff, Value.exists_key_eq_iff] at fits'
    · have fits' : Fits (Key.pretty.name, value) := fits _ mem
      rwa [fits_name_iff, Value.exists_key_eq_iff] at fits'
    · have fits' : Fits (Key.seeds.name, value) := fits _ mem
      rwa [fits_name_iff, Value.exists_key_eq_iff] at fits'

/-! What the settings are then. -/

/-- A member with the given key means the value found, which is a default if there is none. -/
def Given {α : Type} (members : List (String × List Char)) (name : String)
    (means : List Char → α → Prop) (otherwise found : α) : Prop :=
  (∃ value, (name, value) ∈ members ∧ means value found) ∨
    (name ∉ members.map Prod.fst ∧ found = otherwise)

/-- Where a seed is that a file names: an absolute path stays as it is, and a relative one is joined to
the folder of the file, which is empty for a bare name. A file that is in no folder moves nothing. -/
inductive Located (path seed : String) : String → Prop where
  | absolute (absolute : seed.toList.head? = some '/') : Located path seed seed
  | here (relative : seed.toList.head? ≠ some '/') (bare : Path.parent? path.toList = some []) :
      Located path seed seed
  | apart (relative : seed.toList.head? ≠ some '/') (none : Path.parent? path.toList = none) :
      Located path seed seed
  | below {folder : List Char} (relative : seed.toList.head? ≠ some '/')
      (parent : Path.parent? path.toList = some folder) (named : folder ≠ []) :
      Located path seed (String.ofList (folder ++
        ((if folder.getLast? = some '/' then [] else ['/']) ++ seed.toList)))

/-- The settings that the members of an object describe. -/
structure Configures (path : String) (members : List (String × List Char)) (settings : Settings) :
    Prop where
  logFilter : Given members "log_filter" (fun value filter => Stands value (.text filter)) "info"
    settings.logFilter
  pretty : Given members "pretty" Truth true settings.pretty
  seeds : ∃ seeds, Given members "seed_files" TextList [] seeds ∧
    List.Forall₂ (Located path) seeds settings.seeds

theorem locate_of_absolute {seed : String} (absolute : seed.toList.head? = some '/') (path : String) :
    locate path seed = seed := by
  rw [locate]
  split
  · rfl
  · next folder parent =>
    have same : Path.join folder seed.toList = seed.toList :=
      Path.join_of_isAbsolute (by simpa [Path.isAbsolute] using absolute) folder
    rw [same, String.ofList_toList]

theorem locate_of_parent? {path : String} {folder : List Char}
    (parent : Path.parent? path.toList = some folder) (seed : String) :
    locate path seed = String.ofList (Path.join folder seed.toList) := by
  rw [locate, parent]

theorem located_locate (path seed : String) : Located path seed (locate path seed) := by
  by_cases absolute : seed.toList.head? = some '/'
  · rw [locate_of_absolute absolute]
    exact Located.absolute absolute
  cases parent : Path.parent? path.toList with
  | none =>
    rw [locate, parent]
    exact Located.apart absolute parent
  | some folder =>
    rw [locate_of_parent? parent]
    by_cases named : folder = []
    · subst named
      rw [Path.nil_join, String.ofList_toList]
      exact Located.here absolute parent
    · rw [Path.join_of_relative (by simpa [Path.isAbsolute] using absolute) named]
      exact Located.below absolute parent named

/-- A setting is what the member with its key means, and its default without one. -/
theorem given_of_takesAll {α : Type} {final : Draft} {wrap : α → Value} {slot : Option α}
    (key : Key) (h : TakesAll Draft.Takes Draft.empty members final) (get : final.get? key = slot.map wrap)
    (otherwise : α) :
    Given members key.name (fun value found => (wrap found).Meant value) otherwise
      (slot.getD otherwise) := by
  have empty : Draft.empty.get? key = none := by cases key <;> rfl
  rcases Draft.get?_of_takesAll h key with ⟨kept, absent⟩ | ⟨-, found, set, value, mem, meant⟩
  · rw [get, empty, Option.map_eq_none_iff] at kept
    exact Or.inr ⟨absent, by rw [kept, Option.getD_none]⟩
  · rw [get] at set
    obtain ⟨found, rfl, rfl⟩ := Option.map_eq_some_iff.1 set
    exact Or.inl ⟨value, mem, meant⟩

variable {path text : String} {settings : Settings}

theorem ofJson_eq_ok_iff (h : ObjectText members text.toList) : ofJson text = .ok settings ↔
    ∃ final, TakesAll Draft.Takes Draft.empty members final ∧ final.complete = settings := by
  have decode : shape.decode (String.ofList text.toList) = .ok settings ↔ _ :=
    shape.decode_objectText_eq_ok_iff Draft.reads h
  rw [String.ofList_toList] at decode
  rw [ofJson, decode]
  simp only [shape, Except.ok.injEq]

theorem exists_ofJson_iff (h : ObjectText members text.toList) :
    (∃ settings, ofJson text = .ok settings) ↔ Accepted members := by
  have empty : ∀ key, Draft.empty.get? key = none := by
    intro key
    cases key <;> rfl
  simp only [ofJson_eq_ok_iff h, accepted_iff, @exists_comm Settings, exists_and_left,
    exists_eq', and_true, Draft.exists_takesAll_iff, empty, implies_true]

theorem configures_of_ofJson (path : String) (h : ObjectText members text.toList)
    (read : ofJson text = .ok settings) :
    Configures path members { settings with seeds := settings.seeds.map (locate path) } := by
  obtain ⟨final, taken, rfl⟩ := (ofJson_eq_ok_iff h).1 read
  refine ⟨given_of_takesAll .logFilter taken rfl "info",
    given_of_takesAll .pretty taken rfl true, final.complete.seeds,
    given_of_takesAll .seeds taken rfl [], ?_⟩
  rw [List.forall₂_map_right_iff]
  exact List.forall₂_same.2 fun seed _ => located_locate path seed

/-- The text of an object holds settings exactly if its members are accepted. The settings are then those
that the members describe, and otherwise the text is refused as invalid. -/
theorem ofText_objectText (path : String) (object : ObjectText members text.toList) :
    ((∃ settings, ofText path text = .ok settings) ↔ Accepted members) ∧
    (¬ Accepted members → ∃ reason, ofText path text = .error (.invalid path reason)) ∧
    (∀ settings, ofText path text = .ok settings → Configures path members settings) := by
  simp only [← exists_ofJson_iff object, ofText]
  cases read : ofJson text with
  | error reason => simp
  | ok settings =>
    refine ⟨by simp, by simp, ?_⟩
    rintro _ ⟨⟩
    exact configures_of_ofJson path object read

theorem ofOpened_plain (path : String) {bytes : List UInt8} (decoded : Text.decode? bytes = some text) :
    ofOpened path (.ok (.plain bytes)) = ofText path text := by
  simp [ofOpened, File.readText, File.read, File.decode, decoded, Except.bind]

/-- An object in a file with any path holds settings exactly if its members are accepted. The settings
are then those that the members describe, and otherwise the file is refused as invalid. -/
theorem ofOpened_objectText (path : String) {bytes : List UInt8}
    (decoded : Text.decode? bytes = some text) (object : ObjectText members text.toList) :
    let loaded := ofOpened path (.ok (.plain bytes))
    ((∃ settings, loaded = .ok settings) ↔ Accepted members) ∧
    (¬ Accepted members → ∃ reason, loaded = .error (.invalid path reason)) ∧
    (∀ settings, loaded = .ok settings → Configures path members settings) := by
  intro loaded
  have same : loaded = ofText path text := ofOpened_plain path decoded
  rw [same]
  exact ofText_objectText path object

/-- The keys come in reverse order, and the filter is absent. -/
theorem ofOpened_objectText_reversed :
    let members := [("seed_files", "[ \"a\" ,\"/b\"]".toList), ("pretty", "false".toList)]
    let text := "\x7b\"seed_files\": [ \"a\" ,\"/b\"], \"pretty\":false\x7d\n"
    Text.decode? (Text.encode text.toList) = some text ∧ ObjectText members text.toList ∧
      Accepted members ∧
      Configures "/tmp/t/config.json" members ⟨"info", false, ["/tmp/t/a", "/b"]⟩ := by
  intro members text
  have none : Spaces [] := List.forall_mem_nil _
  have blank : Spaces [' '] := by simp [Spaces, isSpace]
  have seeds : TextList "[ \"a\" ,\"/b\"]".toList ["a", "/b"] := by
    have texts (text : String) : Stands (writeText text) (.text text) :=
      (FieldValue.text text).stands_letters
    let entries : List Json.Entry := [⟨[' '], writeText "a", [' ']⟩, ⟨[], writeText "/b", []⟩]
    have leads : ∀ entry ∈ entries, Spaces entry.lead := by simp [entries, blank, none]
    have afters : ∀ entry ∈ entries, Spaces entry.after := by simp [entries, blank, none]
    have parts : TextList _ ["a", "/b"] :=
      ListText.parts leads afters (.cons (texts "a") (.cons (texts "/b") .nil)) none
    refine (congrArg (TextList · ["a", "/b"]) ?_).mpr parts
    decide +kernel
  have object : ObjectText members text.toList := by
    have list : IsValue "[ \"a\" ,\"/b\"]".toList := seeds.isValue fun _ _ => Stands.isValue
    have word : IsValue "false".toList := IsValue.word (by decide)
    have parts := ObjectText.parts none (.cons (memberText_writeText none blank list "seed_files")
      (.cons (memberText_writeText blank none word "pretty") .nil)) none
        (by simp [Spaces, isSpace] : Spaces ['\n'])
    refine (congrArg (ObjectText members) ?_).mpr parts
    decide +kernel
  have decoded : Text.decode? (Text.encode text.toList) = some text := by
    rw [Text.decode?_encode, String.ofList_toList]
  have loaded : ofOpened "/tmp/t/config.json" (.ok (.plain (Text.encode text.toList))) =
      .ok ⟨"info", false, ["/tmp/t/a", "/b"]⟩ := by decide +kernel
  obtain ⟨accepted, -, configures⟩ := ofOpened_objectText "/tmp/t/config.json" decoded object
  exact ⟨decoded, object, accepted.1 ⟨_, loaded⟩, configures _ loaded⟩

end Settings

end Quarry
