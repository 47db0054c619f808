import Quarry.Proofs.Arguments
import Quarry.Proofs.Dump
import Quarry.Proofs.Outcome
import Quarry.Program

/-! A run of the program that asks one query. The settings, every file and the query can each fail. How
files are opened is any function that looks at a world and may change it, so that what a file is opened
as can depend on the files opened before it. Main statement: the run writes the answer of the session
with all files loaded in their order, or it writes nothing. -/

namespace Quarry

/-! Loading files into a session, and asking it. -/

namespace Session

variable {session : Session} {bytes : List UInt8} {contents : List (List UInt8)}

/-- Every stream is loaded to its end. -/
def Loads (session : Session) (contents : List (List UInt8)) : Prop :=
  ∀ reply ∈ session.run (contents.map .load), ∃ count, reply.answer = .loaded count

theorem answer_load_iff : (∃ count, ((Request.load bytes).run session).answer = .loaded count) ↔
    ∃ count, (session.load bytes).1 = .ok count := by
  simp only [Request.run]
  cases (session.load bytes).1 <;> simp [Answer.ofExcept]

theorem loads_cons : session.Loads (bytes :: contents) ↔
    (∃ count, (session.load bytes).1 = .ok count) ∧ (session.load bytes).2.1.Loads contents := by
  rw [Loads, List.map_cons, run, List.forall_mem_cons, answer_load_iff]
  rfl

theorem outcome_of_ok {text answer : String} (h : (session.get text).1 = .ok answer) :
    session.outcome text = .success (answer ++ "\n") := by
  rw [outcome, h]

theorem outcome_of_error {text : String} {reason : QueryError}
    (h : (session.get text).1 = .error reason) :
    session.outcome text = .failed "" (.ofRequest (.query reason)) := by
  rw [outcome, h]

end Session

namespace Program

variable {σ : Type} {openFile : String → StateM σ (Except File.Error File)} {world left : σ}
  {session final : Session} {path : String} {paths : List String} {opened : Except File.Error File}
  {settings : Settings}

/-- The settings of a run, and the world when they have been read. -/
inductive Settled (openFile : String → StateM σ (Except File.Error File)) (world : σ) :
    Option String → Settings → σ → Prop where
  | default : Settled openFile world none .default world
  | file {path : String} {settings : Settings} {opened : Except File.Error File} {left : σ}
    (opens : (openFile path).run world = (opened, left))
    (valid : Settings.ofOpened path opened = .ok settings) :
    Settled openFile world (some path) settings left

/-- What files hold that are opened one after another. -/
inductive Opens (openFile : String → StateM σ (Except File.Error File)) :
    σ → List String → List (List UInt8) → Prop where
  | nil {world : σ} : Opens openFile world [] []
  | cons {world left : σ} {bytes : List UInt8} {path : String} {paths : List String}
    {contents : List (List UInt8)}
    (opens : (openFile path).run world = (.ok (.plain bytes), left))
    (more : Opens openFile left paths contents) :
    Opens openFile world (path :: paths) (bytes :: contents)

/-- What a query prints when nothing fails: the settings can be read, every file can be opened and is
loaded, and the session has an answer. -/
def Prints (openFile : String → StateM σ (Except File.Error File)) (world : σ)
    (invocation : Invocation) (text answer : String) : Prop :=
  ∃ settings left contents, Settled openFile world invocation.settings settings left ∧
    Opens openFile left (settings.seeds ++ invocation.loads) contents ∧
    let session := Session.empty (settings.pretty && !invocation.compact)
    session.Loads contents ∧ ((session.after (contents.map .load)).get text).1 = .ok answer

/-! Steps of a run, in which both a failure and the world are handed on. -/

section Steps

variable {ε α β : Type}

theorem run_ofExcept (x : Except ε α) (s : σ) :
    (ofExcept x : ExceptT ε (StateM σ) α).run.run s = (x, s) := by
  cases x <;> rfl

theorem run_liftM (x : StateM σ α) (s : σ) :
    (liftM x : ExceptT ε (StateM σ) α).run.run s = (.ok (x.run s).1, (x.run s).2) := rfl

theorem run_bind (x : ExceptT ε (StateM σ) α) (f : α → ExceptT ε (StateM σ) β) (s : σ) :
    (x >>= f).run.run s = match x.run.run s with
      | (.ok a, left) => (f a).run.run left
      | (.error e, left) => (.error e, left) := by
  rw [ExceptT.run_bind, StateT.run_bind]
  change (match x.run.run s with | (result, left) => _) = _
  obtain ⟨result, left⟩ := x.run.run s
  cases result <;> rfl

end Steps

theorem loadOpened_eq_ok_iff : loadOpened session path opened = .ok final ↔
    ∃ bytes, opened = .ok (.plain bytes) ∧ (∃ count, (session.load bytes).1 = .ok count) ∧
      (session.load bytes).2.1 = final := by
  cases opened with
  | error reason => simp [loadOpened]
  | ok file =>
    cases file with
    | folder => simp [loadOpened, Batch.ofFile, File.read, Session.receive]
    | plain bytes =>
      have whole : session.receive (.ofFile (.plain bytes)) = session.load bytes := rfl
      simp only [loadOpened, whole, Except.ok.injEq, File.plain.injEq, exists_eq_left']
      generalize session.load bytes = loaded
      obtain ⟨result, left, log⟩ := loaded
      cases result <;> simp

theorem run_loadAll_cons (world : σ) (session : Session) (path : String) (paths : List String) :
    (loadAll openFile session (path :: paths)).run.run world =
      match loadOpened session path ((openFile path).run world).1 with
      | .error failure => (.error failure, ((openFile path).run world).2)
      | .ok session =>
        (loadAll openFile session paths).run.run ((openFile path).run world).2 := by
  rw [loadAll]
  simp only [run_bind, run_liftM, run_ofExcept]
  cases loadOpened session path ((openFile path).run world).1 <;> rfl

/-- Files are loaded as a run of requests, of which none may fail. -/
theorem loadAll_eq_ok_iff :
    ((loadAll openFile session paths).run.run world).1 = .ok final ↔
      ∃ contents, Opens openFile world paths contents ∧ session.Loads contents ∧
        session.after (contents.map .load) = final := by
  induction paths generalizing session world with
  | nil =>
    refine ⟨?_, ?_⟩
    · intro h
      exact ⟨[], .nil, List.forall_mem_nil _, Except.ok.inj h⟩
    · rintro ⟨contents, opens, -, rfl⟩
      cases opens
      rfl
  | cons path paths ih =>
    rw [run_loadAll_cons]
    refine ⟨?_, ?_⟩
    · intro h
      split at h
      · cases h
      · next session' loaded =>
        obtain ⟨bytes, opened, loads, rfl⟩ := loadOpened_eq_ok_iff.1 loaded
        obtain ⟨contents, opens, more, left⟩ := ih.1 h
        exact ⟨bytes :: contents, .cons (Prod.ext opened rfl) opens,
          Session.loads_cons.2 ⟨loads, more⟩, left⟩
    · rintro ⟨contents, opens, loads, left⟩
      cases opens with
      | @cons _ rest bytes _ _ contents opens more =>
        obtain ⟨first, others⟩ := Session.loads_cons.1 loads
        have loaded : loadOpened session path ((openFile path).run world).1 =
            .ok (session.load bytes).2.1 :=
          loadOpened_eq_ok_iff.2 ⟨bytes, congrArg Prod.fst opens, first, rfl⟩
        rw [loaded]
        simp only [opens]
        exact ih.2 ⟨contents, more, others, left⟩

theorem readSettings_eq_iff {source : Option String} :
    (readSettings openFile source).run.run world = (.ok settings, left) ↔
      Settled openFile world source settings left := by
  cases source with
  | none =>
    refine ⟨?_, ?_⟩
    · intro h
      cases h
      exact .default
    · intro h
      cases h
      rfl
  | some path =>
    rw [readSettings]
    simp only [run_bind, run_liftM, run_ofExcept]
    refine ⟨?_, ?_⟩
    · intro h
      cases valid : Settings.ofOpened path ((openFile path).run world).1 with
      | error reason =>
        rw [valid] at h
        cases h
      | ok settings' =>
        rw [valid] at h
        cases h
        exact .file rfl valid
    · intro h
      cases h with
      | file opens valid =>
        simp only [opens, valid]
        rfl

theorem checkFilter_of_valid {environment : Environment} {filter : String}
    (given : environment.logFilter = some filter) (valid : LogFilter.check filter = .ok ())
    (settings : Settings) : checkFilter environment settings = .ok () := by
  simp [checkFilter, given, valid, Except.isOk, Except.toBool]

theorem prepare_eq_ok_iff {environment : Environment} {invocation : Invocation}
    (filter : ∀ settings, checkFilter environment settings = .ok ()) :
    ((prepare openFile environment invocation).run.run world).1 = .ok final ↔
      ∃ settings left contents, Settled openFile world invocation.settings settings left ∧
        Opens openFile left (settings.seeds ++ invocation.loads) contents ∧
        (Session.empty (settings.pretty && !invocation.compact)).Loads contents ∧
        (Session.empty (settings.pretty && !invocation.compact)).after (contents.map .load) =
          final := by
  rw [prepare]
  simp only [run_bind, run_ofExcept, filter]
  refine ⟨?_, ?_⟩
  · intro h
    split at h
    · next settings left read =>
      obtain ⟨contents, opens, loads, eq⟩ := loadAll_eq_ok_iff.1 h
      exact ⟨settings, left, contents, readSettings_eq_iff.1 read, opens, loads, eq⟩
    · cases h
  · rintro ⟨settings, left, contents, settled, opens, loads, eq⟩
    simp only [readSettings_eq_iff.2 settled]
    exact loadAll_eq_ok_iff.2 ⟨contents, opens, loads, eq⟩

theorem run_of_read {place : String → Option Json.Place} {readInput : StateM σ (List UInt8)}
    {environment : Environment} {arguments : List String} {invocation : Invocation} {text : String}
    (accepted : CommandLine.read environment.settings arguments = .run invocation)
    (asked : invocation.task = .query text) :
    ((run openFile place readInput environment arguments).run world).1 =
      match ((prepare openFile environment invocation).run.run world).1 with
      | .error failure => .failed "" failure
      | .ok session => session.outcome text := by
  rw [run, start, accepted]
  simp only [asked, StateT.run_bind]
  generalize StateT.run (prepare openFile environment invocation).run world = prepared
  obtain ⟨result, left⟩ := prepared
  cases result <;> rfl

theorem prints_iff {environment : Environment} {invocation : Invocation} {text answer : String}
    (filter : ∀ settings, checkFilter environment settings = .ok ()) :
    Prints openFile world invocation text answer ↔
      ∃ final, ((prepare openFile environment invocation).run.run world).1 = .ok final ∧
        (final.get text).1 = .ok answer := by
  refine ⟨?_, ?_⟩
  · rintro ⟨settings, left, contents, settled, opens, loads, found⟩
    exact ⟨_, (prepare_eq_ok_iff filter).2 ⟨settings, left, contents, settled, opens, loads, rfl⟩,
      found⟩
  · rintro ⟨final, prepared, found⟩
    obtain ⟨settings, left, contents, settled, opens, loads, rfl⟩ :=
      (prepare_eq_ok_iff filter).1 prepared
    exact ⟨settings, left, contents, settled, opens, loads, found⟩

/-- A query is answered by the session with all files loaded in their order, or nothing is written. -/
theorem run_query (openFile : String → StateM σ (Except File.Error File))
    (place : String → Option Json.Place) (readInput : StateM σ (List UInt8)) (world : σ)
    {environment : Environment} {arguments : List String} {invocation : Invocation}
    {text filter : String}
    (accepted : CommandLine.read environment.settings arguments = .run invocation)
    (asked : invocation.task = .query text) (given : environment.logFilter = some filter)
    (valid : LogFilter.check filter = .ok ()) :
    let outcome := ((run openFile place readInput environment arguments).run world).1
    (∀ answer, Prints openFile world invocation text answer →
        outcome.code = 0 ∧ outcome.output = answer ++ "\n") ∧
      ((¬ ∃ answer, Prints openFile world invocation text answer) →
        outcome.code = 1 ∧ outcome.output = "") ∧
      ∀ settings loads compact query,
        arguments = CommandLine.spelled settings loads compact query →
          invocation = ⟨settings.or environment.settings, loads, compact, .query query⟩ := by
  intro outcome
  have run : outcome = _ := run_of_read accepted asked
  simp only [prints_iff (checkFilter_of_valid given valid)]
  refine ⟨?_, ?_, ?_⟩
  · rintro answer ⟨final, prepared, found⟩
    rw [run, prepared]
    simp only [Session.outcome_of_ok found]
    exact ⟨rfl, rfl⟩
  · intro none
    rw [run]
    cases prepared : ((prepare openFile environment invocation).run.run world).1 with
    | error failure => exact ⟨rfl, rfl⟩
    | ok final =>
      cases found : (final.get text).1 with
      | ok answer => exact absurd ⟨answer, final, prepared, found⟩ none
      | error reason =>
        simp only [Session.outcome_of_error found]
        exact ⟨rfl, rfl⟩
  · rintro settings loads compact query rfl
    exact CommandLine.read_spelled accepted

/-- A record of a seed is replaced by one that is loaded after it, from a file elsewhere on the host. -/
theorem run_query_seeded :
    let old : Record := ⟨"1", "a", "", 1, 0⟩
    let new : Record := ⟨"1", "b", "", 2, 0⟩
    let settings := "\x7b\"pretty\":false,\"seed_files\":[\"a\"]\x7d"
    let host : Host := ⟨[("data", .folder), ("data/b", .file new.line)], [], []⟩
    let tree : Tree := { Tree.ofList
      [("conf/dq.json", Text.encode settings.toList), ("conf/a", old.line)] with host := host }
    let environment : Environment := ⟨none, some "off"⟩
    let text := "LESS_THAN(views,3)"
    let arguments := CommandLine.spelled (some "conf/dq.json") ["/data/b"] false text
    let invocation : Invocation := ⟨some "conf/dq.json", ["/data/b"], false, .query text⟩
    let answer := String.ofList (Record.compactList [new])
    CommandLine.read environment.settings arguments = .run invocation ∧
      invocation.task = .query text ∧ environment.logFilter = some "off" ∧
      LogFilter.check "off" = .ok () ∧ Prints tree.openFile [] invocation text answer ∧
      (runIn tree environment arguments []).code = 0 ∧
      (runIn tree environment arguments []).output = answer ++ "\n" := by
  intro old new settings host tree environment text arguments invocation answer
  have accepted : CommandLine.read environment.settings arguments = .run invocation := by
    decide +kernel
  have valid : LogFilter.check "off" = .ok () := by decide
  have filter : ∀ settings, checkFilter environment settings = .ok () :=
    checkFilter_of_valid rfl valid
  have prints : Prints tree.openFile [] invocation text answer :=
    (prints_iff filter).2 ⟨⟨⟨[new]⟩, false⟩, by decide +kernel, by decide +kernel⟩
  obtain ⟨found, -, -⟩ := run_query tree.openFile (fun _ => none) get [] accepted rfl rfl valid
  exact ⟨accepted, rfl, rfl, valid, prints, found answer prints⟩

end Program

end Quarry
