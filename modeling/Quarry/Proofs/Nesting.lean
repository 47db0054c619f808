import Mathlib.Data.List.Chain
import Quarry.Proofs.Reading

/-! How far reading a query goes. The reader is repeated here with a record of its calls, and the loop over
the body of a list with a record of its passes. Main statement: both work on shorter and shorter texts, no
more than 64 NOTs are nested, and a query that opens more of them is malformed, whatever comes then. -/

namespace Quarry

open Quarry.Group

variable {text inner rest : List Char}

namespace Condition

/-- What the loop goes on with after a condition. -/
def nextBody (after : List Char) : Except QueryError (List Char) :=
  match after with
  | [] => .ok []
  | [','] => .error (.malformed .trailingComma)
  | ',' :: next => .ok next
  | rest => .error (.malformed (.notSeparated (String.ofList rest)))

theorem length_of_nextBody {after next : List Char} (h : nextBody after = .ok next) :
    next.length ≤ after.length := by
  unfold nextBody at h
  split at h
  · cases h
    exact Nat.le_refl _
  · cases h
  · cases h
    exact Nat.le_succ _
  · cases h

/-- The loop over a body, with the bodies that it comes to. -/
def readPasses (body : List Char) : List (List Char) × Except QueryError (List Condition) :=
  if body.isEmpty then ([body], .ok [])
  else
    match _ : Condition.read body with
    | .error e => ([body], .error e)
    | .ok (condition, after) =>
      match _ : nextBody after with
      | .error e => ([body], .error e)
      | .ok next =>
        let (bodies, result) := readPasses next
        (body :: bodies, result.map (condition :: ·))
termination_by body.length
decreasing_by
  have := length_of_read ‹_›
  have := length_of_nextBody ‹_›
  omega

/-- The loop over a body in terms of its first pass. -/
theorem readList_of_read {body after : List Char} {condition : Condition}
    (h : Condition.read body = .ok (condition, after)) :
    readList body = ((nextBody after).bind readList).map (condition :: ·) := by
  have filled : ¬ body.isEmpty := by
    have := length_of_read h
    rintro empty
    simp_all
  rw [readList, if_neg filled]
  split
  next eq =>
    rw [h] at eq
    cases eq
  next eq =>
    rw [h] at eq
    cases eq
    simp [nextBody, Except.bind, readList, Except.map]
  next eq =>
    rw [h] at eq
    cases eq
    rfl
  next next more eq =>
    rw [h] at eq
    cases eq
    have left : nextBody (',' :: next) = .ok next := by
      unfold nextBody
      split <;> simp_all
    rw [left]
    rfl
  next last comma more eq =>
    rw [h] at eq
    cases eq
    unfold nextBody
    split <;> simp_all [Except.bind, Except.map]

theorem readPasses_snd (body : List Char) : (readPasses body).2 = readList body := by
  fun_induction readPasses body with
  | case1 body empty => rw [readList, if_pos empty]
  | case2 body filled e failed =>
    rw [readList, if_neg filled]
    split <;> simp_all
  | case3 body filled condition after read e stopped =>
    rw [readList_of_read read, stopped]
    rfl
  | case4 body filled condition after read next more bodies result eq ih =>
    rw [readList_of_read read, more, Except.bind, ← ih, eq]

theorem head?_readPasses (body : List Char) : (readPasses body).1.head? = some body := by
  fun_cases readPasses body <;> rfl

theorem isChain_readPasses (body : List Char) :
    (readPasses body).1.IsChain fun before after => after.length < before.length := by
  fun_induction readPasses body with
  | case1 | case2 | case3 => exact List.IsChain.singleton _
  | case4 body filled condition after read next more bodies result eq ih =>
    rw [eq] at ih
    refine List.isChain_cons.2 ⟨?_, ih⟩
    intro first mem
    have head := head?_readPasses next
    rw [eq, mem] at head
    cases head
    exact Nat.lt_of_le_of_lt (length_of_nextBody more) (length_of_read read)

theorem length_readPasses_le (body : List Char) : (readPasses body).1.length ≤ body.length + 1 := by
  fun_induction readPasses body with
  | case1 | case2 | case3 => simp
  | case4 body filled condition after read next more bodies result eq ih =>
    have := length_of_read read
    have := length_of_nextBody more
    simp only [eq, List.length_cons] at ih ⊢
    omega

end Condition

namespace Query

/-- A call of the reader: the text, and how many NOTs stand around it. -/
structure Call where
  depth : Nat
  text : List Char

/-- What is cut out of a NOT is shorter than the text that starts with it. -/
theorem length_of_inner {keyword : Keyword} {after : List Char}
    (read : Keyword.read text = .ok (keyword, after)) (cut : split after = .ok (inner, rest)) :
    inner.length < text.length := by
  have le := Keyword.length_of_read read
  obtain ⟨rfl, -⟩ := split_eq_ok_iff.1 cut
  simp only [List.cons_append, List.length_cons, List.length_append] at le
  omega

/-- The reader, with its calls. -/
def readCalls (depth : Nat) (text : List Char) : List Call × Reading (Query × List Char) :=
  match _ : Keyword.read text with
  | .error e => ([⟨depth, text⟩], ⟨[], .error e⟩)
  | .ok (.equal, rest) => ([⟨depth, text⟩], ⟨[.equal], readLeaf .equal rest⟩)
  | .ok (.greaterThan, rest) => ([⟨depth, text⟩], ⟨[.greaterThan], readLeaf .greater rest⟩)
  | .ok (.lessThan, rest) => ([⟨depth, text⟩], ⟨[.lessThan], readLeaf .less rest⟩)
  | .ok (.and, rest) => ([⟨depth, text⟩], ⟨[.and], readConditions .all rest⟩)
  | .ok (.or, rest) => ([⟨depth, text⟩], ⟨[.or], readConditions .any rest⟩)
  | .ok (.not, rest) =>
    if maxNegations ≤ depth then ([⟨depth, text⟩], ⟨[.not], .error (.malformed .tooDeep)⟩)
    else
      match _ : split rest with
      | .error e => ([⟨depth, text⟩], ⟨[.not], .error e⟩)
      | .ok (inner, rest) =>
        let (calls, below) := readCalls (depth + 1) inner
        (⟨depth, text⟩ :: calls, ⟨.not :: below.keywords, do
          let (query, leftover) ← below.result
          expectEnd leftover
          return (.not query, rest)⟩)
termination_by text.length
decreasing_by exact length_of_inner ‹_› ‹_›

variable {depth : Nat}

theorem readCalls_snd (bound : depth ≤ maxNegations) :
    (readCalls depth text).2 = readTree (maxNegations - depth) text := by
  fun_induction readCalls depth text with
  | case1 depth text e read | case2 depth text rest read | case3 depth text rest read
  | case4 depth text rest read | case5 depth text rest read | case6 depth text rest read =>
    rw [readTree]
    simp only [read]
  | case7 depth text rest read deep =>
    rw [Nat.sub_eq_zero_of_le deep, readTree]
    simp only [read]
  | case8 depth text rest read shallow e failed =>
    obtain ⟨levels, eq⟩ : ∃ levels, maxNegations - depth = levels + 1 :=
      ⟨maxNegations - depth - 1, by omega⟩
    rw [eq, readTree]
    simp only [read, failed]
  | case9 depth text rest read shallow inner after cut calls below eq ih =>
    obtain ⟨levels, eq'⟩ : ∃ levels, maxNegations - depth = levels + 1 :=
      ⟨maxNegations - depth - 1, by omega⟩
    have levels' : maxNegations - (depth + 1) = levels := by omega
    rw [eq', readTree]
    rw [eq, levels'] at ih
    simp only [read, cut, ← ih (by omega)]

theorem head?_readCalls (depth : Nat) (text : List Char) :
    (readCalls depth text).1.head? = some ⟨depth, text⟩ := by
  fun_cases readCalls depth text <;> rfl

theorem isChain_readCalls (depth : Nat) (text : List Char) :
    (readCalls depth text).1.IsChain fun outer inner =>
      inner.depth = outer.depth + 1 ∧ inner.text.length < outer.text.length := by
  fun_induction readCalls depth text with
  | case9 depth text rest read shallow inner after cut calls below eq ih =>
    rw [eq] at ih
    refine List.isChain_cons.2 ⟨?_, ih⟩
    intro first mem
    have head := head?_readCalls (depth + 1) inner
    rw [eq, mem] at head
    cases head
    exact ⟨rfl, length_of_inner read cut⟩
  | _ => exact List.IsChain.singleton _

theorem depth_le_of_mem_readCalls (bound : depth ≤ maxNegations) :
    ∀ call ∈ (readCalls depth text).1, call.depth ≤ maxNegations := by
  fun_induction readCalls depth text with
  | case9 depth text rest read shallow inner after cut calls below eq ih =>
    rw [eq] at ih
    exact List.forall_mem_cons.2 ⟨bound, ih (by omega)⟩
  | _ => exact List.forall_mem_singleton.2 bound

theorem length_readCalls_le (bound : depth ≤ maxNegations) :
    depth + (readCalls depth text).1.length ≤ maxNegations + 1 := by
  fun_induction readCalls depth text with
  | case9 depth text rest read shallow inner after cut calls below eq ih =>
    simp only [eq, List.length_cons] at ih ⊢
    have := ih (by omega)
    omega
  | _ => exact Nat.succ_le_succ bound

/-! NOTs that are opened in front of any text. -/

/-- The start of as many NOTs. -/
def nots (count : Nat) : List Char :=
  (List.replicate count "NOT(".toList).flatten

theorem nots_succ_append (count : Nat) (text : List Char) :
    nots (count + 1) ++ text = Keyword.not.text.toList ++ '(' :: (nots count ++ text) := by
  simp [nots, List.replicate_succ, Keyword.text]

theorem close_notMem_nots (count : Nat) : ')' ∉ nots count := by
  intro mem
  obtain ⟨piece, mem', mem⟩ := List.mem_flatten.1 mem
  rw [List.eq_of_mem_replicate mem'] at mem
  revert mem
  decide

/-- A group that starts with opened NOTs goes on behind them, since none of them closes it. -/
theorem exists_inner_of_split {count : Nat} (h : split ('(' :: (nots count ++ text)) = .ok (inner, rest)) :
    ∃ more, inner = nots count ++ more := by
  obtain ⟨eq, -⟩ := split_eq_ok_iff.1 h
  have same : nots count ++ text = inner ++ ')' :: rest := by simpa using eq
  rcases List.append_eq_append_iff.1 same with ⟨more, front, -⟩ | ⟨more, front, back⟩
  · exact ⟨more, front⟩
  · cases more with
    | nil => exact ⟨[], by simpa using front.symm⟩
    | cons c more =>
      obtain rfl : ')' = c := (List.cons.inj back).1
      exact absurd (front ▸ by simp) (close_notMem_nots count)

theorem malformed_of_nots {levels count : Nat} {text : List Char} (deep : levels < count) :
    ∃ reason, (readTree levels (nots count ++ text)).result = .error (.malformed reason) := by
  induction levels generalizing count text with
  | zero =>
    obtain ⟨count, rfl⟩ := Nat.exists_eq_succ_of_ne_zero (Nat.ne_of_gt deep)
    exact ⟨_, readTree_not_zero (Keyword.read_eq_ok_iff.2 (nots_succ_append count text))⟩
  | succ levels ih =>
    obtain ⟨count, rfl⟩ := Nat.exists_eq_succ_of_ne_zero (Nat.ne_of_gt (Nat.zero_lt_of_lt deep))
    have read := Keyword.read_eq_ok_iff.2 (nots_succ_append count text)
    rw [readTree]
    simp only [read]
    rcases split_eq_ok_or_error ('(' :: (nots count ++ text)) with ⟨inner, rest, cut⟩ | ⟨reason, cut⟩
    · obtain ⟨more, rfl⟩ := exists_inner_of_split cut
      obtain ⟨reason, below⟩ : ∃ reason,
          (readTree levels (nots count ++ more)).result = .error (.malformed reason) :=
        ih (Nat.lt_of_succ_lt_succ deep)
      exact ⟨reason, by simp only [cut, below, error_bind]⟩
    · exact ⟨reason, by simp only [cut]⟩

theorem malformed_ofText_of_nots {raw : String} {count : Nat} (deep : 65 ≤ count)
    (starts : Text.trim raw.toList = nots count ++ rest) :
    ∃ reason, ofText raw = .error (.malformed reason) := by
  obtain ⟨reason, tree⟩ : ∃ reason,
      (readTree maxNegations (nots count ++ rest)).result = .error (.malformed reason) :=
    malformed_of_nots deep
  rw [← starts] at tree
  exact ⟨reason, by simp only [ofText, read, tree, error_bind]⟩

/-- Reading ends on every text. The calls inside of NOTs are on shorter and shorter texts, and so are the
passes over a list; neither goes on for long. No tree that is read nests more than 64 NOTs, and a text that
opens more of them is malformed. -/
theorem read_within_bounds (raw : String) :
    let text := Text.trim raw.toList
    let calls := (readCalls 0 text).1
    ((readCalls 0 text).2 = readTree 64 text ∧
        (calls.IsChain fun outer inner =>
          inner.depth = outer.depth + 1 ∧ inner.text.length < outer.text.length) ∧
        (∀ call ∈ calls, call.depth ≤ 64) ∧ calls.length ≤ 65) ∧
      (∀ body,
        let passes := (Condition.readPasses body).1
        (Condition.readPasses body).2 = Condition.readList body ∧
          (passes.IsChain fun before after => after.length < before.length) ∧
          passes.length ≤ body.length + 1) ∧
      (∀ query, ofText raw = .ok query → query.negations ≤ 64) ∧
      ∀ count rest, 65 ≤ count → text = (List.replicate count "NOT(".toList).flatten ++ rest →
        ∃ reason, ofText raw = .error (.malformed reason) := by
  intro text calls
  have bound : 0 ≤ maxNegations := Nat.zero_le _
  refine ⟨⟨readCalls_snd bound, isChain_readCalls 0 text, depth_le_of_mem_readCalls bound, ?_⟩, ?_, ?_, ?_⟩
  · have le : 0 + calls.length ≤ maxNegations + 1 := length_readCalls_le bound
    rwa [Nat.zero_add] at le
  · intro body
    exact ⟨Condition.readPasses_snd body, Condition.isChain_readPasses body,
      Condition.length_readPasses_le body⟩
  · intro query read
    exact ((ofText_eq_ok_iff_readTree.trans readTree_eq_ok_nil_iff).1 read).1
  · intro count rest deep starts
    exact malformed_ofText_of_nots deep starts

end Query

end Quarry
