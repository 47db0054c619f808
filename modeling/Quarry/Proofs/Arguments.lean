import Mathlib.Tactic.Common
import Quarry.CommandLine

/-! What a command line in its plain form is read as. A path that follows its option is looked at only
when the next argument has been reached, so that reading carries the options with one path still to be
accepted. Main statement: where the plain form is read as an invocation, it is the one spelled out. -/

namespace Quarry.CommandLine

variable {default : Option String} {options next : Options} {last : Option (PathOption × String)}
  {invocation : Invocation} {rest : List String} {path text : String}

/-- The arguments that ask a query, each option with its value behind it. -/
def spelled (settings : Option String) (loads : List String) (compact : Bool) (text : String) :
    List String :=
  settings.toList.flatMap (fun path => ["--config", path]) ++
    (loads.flatMap (fun path => ["--load", path]) ++
      ((if compact then ["--compact"] else []) ++ ["query", text]))

/-! One argument. -/

theorem settle_load (h : options.settle (some (.load, path)) = some next) :
    next = { options with loads := options.loads ++ [path] } := by
  rw [Options.settle, Options.accept] at h
  split_ifs at h
  exact (Option.some.inj h).symm

theorem settle_settings (h : options.settle (some (.settings, path)) = some next) :
    next = { options with settings := some path } := by
  rw [Options.settle, Options.accept] at h
  split_ifs at h
  exact (Option.some.inj h).symm

theorem readOptions_separate {argument : String} {option : PathOption}
    (kind : Argument.ofText argument = .separate option)
    (h : readOptions default options last (argument :: path :: rest) = .run invocation) :
    ∃ next, options.settle last = some next ∧
      readOptions default next (some (option, path)) rest = .run invocation := by
  rw [readOptions, kind] at h
  cases settled : options.settle last with
  | none => simp [settled] at h
  | some next =>
    simp only [settled] at h
    split_ifs at h
    exact ⟨next, rfl, h⟩

theorem readOptions_compact
    (h : readOptions default options last ("--compact" :: rest) = .run invocation) :
    ∃ next, options.settle last = some next ∧
      readOptions default { next with compact := true } none rest = .run invocation := by
  have kind : Argument.ofText "--compact" = .compact := by decide
  rw [readOptions, kind] at h
  cases settled : options.settle last with
  | none => simp [settled] at h
  | some next =>
    simp only [settled, Options.setCompact] at h
    split_ifs at h
    exact ⟨next, rfl, h⟩

theorem readQuery_or (text : String) : readQuery none [text] = .ok (.query text) ∨
    readQuery none [text] = .error .rejected ∨ readQuery none [text] = .error (.help .query) := by
  simp only [readQuery]
  split_ifs <;> simp

theorem withDefault_eq_some {settings : Option String}
    (h : options.withDefault settings = some next) :
    next = { options with settings := options.settings.or settings } := by
  obtain ⟨own, loads, compact⟩ := options
  cases own with
  | some path => exact (Option.some.inj h).symm
  | none =>
    cases settings with
    | none => exact (Option.some.inj h).symm
    | some path => exact settle_settings h

theorem readOptions_query
    (h : readOptions default options last ["query", text] = .run invocation) :
    ∃ next, options.settle last = some next ∧
      invocation = ⟨next.settings.or default, next.loads, next.compact, .query text⟩ := by
  have kind : Argument.ofText "query" = .word := by decide
  rw [readOptions, kind] at h
  simp only [if_pos] at h
  rcases readQuery_or text with task | task | task <;> simp only [task, finish] at h
  · cases settled : options.settle last with
    | none => simp [settled] at h
    | some next =>
      simp only [settled, Option.bind_some] at h
      split at h
      · cases h
      · next complete =>
        cases withDefault_eq_some complete
        exact ⟨next, rfl, (CommandLine.run.inj h).symm⟩
  · cases h
  · cases h

/-! A whole command line. -/

theorem readOptions_loads {loads : List String}
    (h : readOptions default options last (loads.flatMap (fun path => ["--load", path]) ++ rest) =
      .run invocation) :
    ∃ options' last', readOptions default options' last' rest = .run invocation ∧
      ∀ next, options'.settle last' = some next → ∃ first, options.settle last = some first ∧
        next = { first with loads := first.loads ++ loads } := by
  induction loads generalizing options last with
  | nil =>
    refine ⟨options, last, h, ?_⟩
    intro next settled
    exact ⟨next, settled, by simp⟩
  | cons path loads ih =>
    have kind : Argument.ofText "--load" = .separate .load := by decide
    obtain ⟨first, settled, more⟩ := readOptions_separate kind h
    obtain ⟨options', last', read, back⟩ := ih more
    refine ⟨options', last', read, ?_⟩
    intro next settled'
    obtain ⟨second, accepted, rfl⟩ := back next settled'
    obtain rfl := settle_load accepted
    exact ⟨first, settled, by simp⟩

theorem readOptions_end {compact : Bool}
    (h : readOptions default options last
      ((if compact then ["--compact"] else []) ++ ["query", text]) = .run invocation) :
    ∃ next, options.settle last = some next ∧ invocation =
      ⟨next.settings.or default, next.loads, next.compact || compact, .query text⟩ := by
  cases compact with
  | false =>
    obtain ⟨next, settled, eq⟩ := readOptions_query h
    exact ⟨next, settled, by rw [eq, Bool.or_false]⟩
  | true =>
    obtain ⟨next, settled, more⟩ := readOptions_compact h
    obtain ⟨last, settled', eq⟩ := readOptions_query more
    obtain rfl := Option.some.inj settled'
    exact ⟨next, settled, by rw [eq, Bool.or_true]⟩

/-- The plain form is read as what it spells out, if as an invocation at all. -/
theorem read_spelled {settings : Option String} {loads : List String} {compact : Bool}
    (h : read default (spelled settings loads compact text) = .run invocation) :
    invocation = ⟨settings.or default, loads, compact, .query text⟩ := by
  cases settings with
  | none =>
    obtain ⟨options, last, more, back⟩ := readOptions_loads h
    obtain ⟨next, settled, rfl⟩ := readOptions_end more
    obtain ⟨first, start, rfl⟩ := back next settled
    obtain rfl := Option.some.inj start
    rfl
  | some path =>
    have kind : Argument.ofText "--config" = .separate .settings := by decide
    obtain ⟨empty, start, inside⟩ := readOptions_separate kind h
    obtain rfl := Option.some.inj start
    obtain ⟨options, last, more, back⟩ := readOptions_loads inside
    obtain ⟨next, settled, rfl⟩ := readOptions_end more
    obtain ⟨first, accepted, rfl⟩ := back next settled
    obtain rfl := settle_settings accepted
    rfl

end Quarry.CommandLine
