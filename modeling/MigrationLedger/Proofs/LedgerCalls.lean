import MigrationLedger.Proofs.Appending
import MigrationLedger.Proofs.Deletion
import MigrationLedger.Proofs.Tombstones

/-!
# Calls on a ledger

Rows come into a ledger and leave it by two calls, either of which may fail.  A call works on the
rows in place: an append looks for its rank before it puts the row in, a delete drops what has its
rank and counts afterwards whether anything went.  Whichever calls are made on a ledger that
started without rows, no two of its rows ever share a rank.  This one invariant says where an
appended row ends up, that a delete takes out a single row, and that a call which failed has
changed nothing.

## Main definitions

* `LedgerCall` — an append or a delete.
* `Ledger.call`, `Ledger.callAll` — a call in place, and a sequence of calls.
* `Ledger.rankTaken`, `Ledger.rankMissing` — why a call fails.

## Main results

* `Ledger.call_eq` — a call in place does what `append` and `delete` say.
* `Ledger.strictlyAscending_call`, `Ledger.strictlyAscending_callAll` — a call keeps the rows in
  strictly ascending order, and so does a sequence of calls.
* `Ledger.exists_rows_of_append`, `Ledger.exists_rows_of_delete` — a single row is put in, or
  taken out.
* `calls_keep_ranks_distinct` — **what calls do to a ledger that started without rows.**
-/

namespace MigrationLedger

/-- A call on a ledger. -/
inductive LedgerCall
  /-- Append the row. -/
  | append (row : AppliedMigration)
  /-- Delete what has the rank of the row. -/
  | delete (row : AppliedMigration)
  deriving DecidableEq

namespace Ledger

variable {l next : Ledger} {row : AppliedMigration} {rank : Int32}

/-! ### When a call fails -/

/-- The rank of the row is taken. -/
def rankTaken (row : AppliedMigration) : Error :=
  .ledger ("installed rank " ++ toString row.installedRank.toInt ++ " is already taken")

/-- There is nothing of the rank of the row. -/
def rankMissing (row : AppliedMigration) : Error :=
  .ledger ("no row with installed rank " ++ toString row.installedRank.toInt
    ++ " for script '" ++ row.script ++ "'")

theorem append_eq_ite (l : Ledger) (row : AppliedMigration) :
    l.append row = if l.hasRank row.installedRank then .error (rankTaken row)
      else .ok (ofRows (l.rows ++ [row])) := rfl

theorem delete_eq_ite (l : Ledger) (row : AppliedMigration) :
    l.delete row = if l.hasRank row.installedRank then .ok (l.without row.installedRank)
      else .error (rankMissing row) := rfl

/-! ### Calls in place -/

/-- A call by itself: the ledger it asks for, or why it fails. -/
def perform (l : Ledger) : LedgerCall → Except Error Ledger
  | .append row => l.append row
  | .delete row => l.delete row

/-- A call in place: the ledger afterwards, and why the call failed. -/
def call (l : Ledger) : LedgerCall → Ledger × Option Error
  | .append row =>
    if l.hasRank row.installedRank then (l, some (rankTaken row))
    else (ofRows (l.rows ++ [row]), none)
  | .delete row =>
    let left := l.without row.installedRank
    -- that there was no row of the rank shows only in the number of rows
    (left, if left.size = l.size then some (rankMissing row) else none)

theorem call_append_of_taken (h : l.hasRank row.installedRank = true) :
    l.call (.append row) = (l, some (rankTaken row)) := by
  rw [call, if_pos h]

theorem call_append_of_free (h : l.hasRank row.installedRank = false) :
    l.call (.append row) = (ofRows (l.rows ++ [row]), none) := by
  rw [call, if_neg (Bool.eq_false_iff.1 h)]

/-- The ledger after some calls, whether they failed or not. -/
def callAll (l : Ledger) (calls : List LedgerCall) : Ledger :=
  calls.foldl (fun l c => (l.call c).1) l

@[simp] theorem callAll_nil (l : Ledger) : l.callAll [] = l := rfl

@[simp] theorem callAll_cons (l : Ledger) (c : LedgerCall) (calls : List LedgerCall) :
    l.callAll (c :: calls) = (l.call c).1.callAll calls := rfl

/-- Where no row has the rank, dropping the rows of that rank leaves all of them. -/
theorem without_eq_self (h : l.hasRank rank = false) : l.without rank = l := by
  apply ext
  rw [rows_without, List.filter_eq_self]
  intro r hr
  rw [bne_iff_ne]
  exact hasRank_eq_false_iff.1 h r hr

theorem size_without_eq_iff : (l.without rank).size = l.size ↔ l.hasRank rank = false := by
  constructor
  · intro h
    rw [size, rows_without, size, List.length_filter_eq_length_iff] at h
    exact hasRank_eq_false_iff.2 fun r hr => bne_iff_ne.1 (h r hr)
  · intro h
    rw [without_eq_self h]

/-- **A call in place does what `append` and `delete` say**, and one that fails changes nothing. -/
theorem call_eq (l : Ledger) (c : LedgerCall) :
    l.call c = match l.perform c with
      | .ok next => (next, none)
      | .error e => (l, some e) := by
  cases c with
  | append row =>
    simp only [call, perform, append_eq_ite]
    split <;> rfl
  | delete row =>
    simp only [call, perform, delete_eq_ite, size_without_eq_iff]
    cases htaken : l.hasRank row.installedRank with
    | true => rfl
    | false =>
      -- the rows that were dropped in vain are those of the ledger
      rw [without_eq_self htaken]
      rfl

theorem call_eq_none_iff {c : LedgerCall} :
    l.call c = (next, none) ↔ l.perform c = .ok next := by
  rw [call_eq]
  cases l.perform c <;> simp

theorem call_eq_some_iff {c : LedgerCall} {e : Error} :
    l.call c = (next, some e) ↔ next = l ∧ l.perform c = .error e := by
  rw [call_eq]
  cases l.perform c with
  | ok after => simp
  | error e' => simp [eq_comm]

theorem call_append_fails_iff :
    (∃ e, (l.call (.append row)).2 = some e) ↔
      ∃ r ∈ l.rows, r.installedRank = row.installedRank := by
  rw [← hasRank_iff]
  cases htaken : l.hasRank row.installedRank with
  | true => simp [call_append_of_taken htaken]
  | false => simp [call_append_of_free htaken]

theorem call_delete_fails_iff :
    (∃ e, (l.call (.delete row)).2 = some e) ↔
      ∀ r ∈ l.rows, r.installedRank ≠ row.installedRank := by
  rw [← hasRank_eq_false_iff, ← size_without_eq_iff]
  by_cases hsize : (l.without row.installedRank).size = l.size <;> simp [call, hsize]

/-! ### Strictly ascending ranks -/

/-- Every call keeps the rows in strictly ascending order. -/
theorem strictlyAscending_call (h : StrictlyAscending l.rows) (c : LedgerCall) :
    StrictlyAscending (l.call c).1.rows := by
  cases c with
  | append row =>
    rw [call_eq]
    cases happend : l.perform (.append row) with
    | error e => exact h
    | ok next => exact strictlyAscending (distinctRanks_of_append happend h.distinctRanks)
  | delete row => exact h.sublist List.filter_sublist

/-- Every sequence of calls keeps the rows in strictly ascending order. -/
theorem strictlyAscending_callAll (h : StrictlyAscending l.rows) (calls : List LedgerCall) :
    StrictlyAscending (l.callAll calls).rows := by
  induction calls generalizing l with
  | nil => exact h
  | cons c calls ih =>
    rw [callAll_cons]
    exact ih (strictlyAscending_call h c)

/-- Rows in strictly ascending order are those below a rank that none of them has, and those
above it. -/
theorem eq_below_append_above {rows : List AppliedMigration} (h : StrictlyAscending rows)
    (hfree : ∀ r ∈ rows, r.installedRank ≠ rank) :
    rows = (rows.filter fun r => r.installedRank < rank)
      ++ rows.filter fun r => rank < r.installedRank := by
  refine eq_of_pairwise_of_mem_iff (fun a b => Int32.lt_asymm) h ?_ fun r => ?_
  · refine List.pairwise_append.2 ⟨h.sublist List.filter_sublist, h.sublist List.filter_sublist, ?_⟩
    intro a ha b hb
    rw [List.mem_filter, decide_eq_true_eq] at ha hb
    exact Int32.lt_trans ha.2 hb.2
  · simp only [List.mem_append, List.mem_filter, decide_eq_true_eq, ← and_or_left]
    constructor
    · intro hr
      exact ⟨hr, Int32.lt_or_lt_of_ne (hfree r hr)⟩
    · exact And.left

/-- **An append puts in its row and nothing else**, between the rows below its rank and those
above it. -/
theorem exists_rows_of_append (h : StrictlyAscending l.rows) (happend : l.append row = .ok next) :
    ∃ below above, l.rows = below ++ above ∧ next.rows = below ++ row :: above := by
  have hfree : ∀ r ∈ l.rows, r.installedRank ≠ row.installedRank := by
    intro r hr hrank
    rw [append_eq_ite, if_pos (hasRank_iff.2 ⟨r, hr, hrank⟩)] at happend
    exact nomatch happend
  have hnext := strictlyAscending (distinctRanks_of_append happend h.distinctRanks)
  refine ⟨_, _, eq_below_append_above h hfree, ?_⟩
  refine eq_of_pairwise_of_mem_iff (fun a b => Int32.lt_asymm) hnext ?_ fun r => ?_
  · refine List.pairwise_append.2 ⟨h.sublist List.filter_sublist, List.pairwise_cons.2 ⟨?_,
      h.sublist List.filter_sublist⟩, ?_⟩
    · intro b hb
      exact of_decide_eq_true (List.mem_filter.1 hb).2
    · intro a ha b hb
      rw [List.mem_filter, decide_eq_true_eq] at ha
      rcases List.mem_cons.1 hb with rfl | hb
      · exact ha.2
      · rw [List.mem_filter, decide_eq_true_eq] at hb
        exact Int32.lt_trans ha.2 hb.2
  · rw [mem_of_append happend, List.mem_append, List.mem_cons, or_left_comm, ← List.mem_append,
      ← eq_below_append_above h hfree, or_comm]

/-- **A delete takes out one row and nothing else.** -/
theorem exists_rows_of_delete (h : StrictlyAscending l.rows) (hdelete : l.delete row = .ok next) :
    ∃ below r above, r.installedRank = row.installedRank ∧ l.rows = below ++ r :: above ∧
      next.rows = below ++ above := by
  have htaken : l.hasRank row.installedRank = true := by
    by_contra hfree
    rw [delete_eq_ite, if_neg hfree] at hdelete
    exact nomatch hdelete
  obtain ⟨r, hr, hrank⟩ := hasRank_iff.1 htaken
  obtain ⟨below, above, hrows⟩ := List.append_of_mem hr
  refine ⟨below, r, above, hrank, hrows, ?_⟩
  rw [hrows] at h
  obtain ⟨-, hright, hleft⟩ := List.pairwise_append.1 h
  have hbelow : ∀ q ∈ below, (q.installedRank != row.installedRank) = true := by
    intro q hq
    rw [bne_iff_ne, ← hrank]
    exact Int32.ne_of_lt (hleft q hq r List.mem_cons_self)
  have habove : ∀ q ∈ above, (q.installedRank != row.installedRank) = true := by
    intro q hq
    rw [bne_iff_ne, ← hrank]
    exact (Int32.ne_of_lt ((List.pairwise_cons.1 hright).1 q hq)).symm
  have hself : (r.installedRank != row.installedRank) = false := by simp [hrank]
  rw [rows_of_delete hdelete, hrows, List.filter_append, List.filter_cons, hself,
    List.filter_eq_self.2 hbelow, List.filter_eq_self.2 habove]
  rfl

/-! ### The next rank -/

/-- There is room for a further row while every rank is below the greatest there is. -/
theorem hasRoom_one (h : ∀ r ∈ l.rows, r.installedRank < Int32.maxValue) : l.HasRoom 1 := by
  unfold HasRoom
  cases hlast : l.lastRank? with
  | none => decide
  | some last =>
    obtain ⟨r, hr, rfl⟩ := List.mem_map.1 (List.max?_eq_some_iff.1 hlast).1
    have hlt := Int32.lt_iff_toInt_lt.1 (h r hr)
    simp only [Option.elim_some]
    omega

end Ledger

/-- **What calls do to a ledger that started without rows.**  After any calls, failed ones among
them, the rows ascend strictly by rank.  The next call fails exactly when it appends a rank that is
taken or deletes one that is not there, and then it has changed nothing.  Otherwise it has put in
the given row, or taken out the row of the given rank, and left all others in their order.  Below
the greatest rank there is, a row of the next rank can be appended and comes last. -/
theorem calls_keep_ranks_distinct (calls : List LedgerCall) :
    let l := Ledger.empty.callAll calls
    StrictlyAscending l.rows ∧
    (∀ c, l.call c = match l.perform c with
      | .ok next => (next, none)
      | .error e => (l, some e)) ∧
    (∀ row, (∃ e, (l.call (.append row)).2 = some e) ↔
      ∃ r ∈ l.rows, r.installedRank = row.installedRank) ∧
    (∀ row, (∃ e, (l.call (.delete row)).2 = some e) ↔
      ∀ r ∈ l.rows, r.installedRank ≠ row.installedRank) ∧
    (∀ c e, (l.call c).2 = some e → (l.call c).1.rows = l.rows) ∧
    (∀ row next, l.call (.append row) = (next, none) →
      ∃ below above, l.rows = below ++ above ∧ next.rows = below ++ row :: above) ∧
    (∀ row next, l.call (.delete row) = (next, none) →
      ∃ below r above, r.installedRank = row.installedRank ∧ l.rows = below ++ r :: above ∧
        next.rows = below ++ above) ∧
    ((∀ r ∈ l.rows, r.installedRank < Int32.maxValue) →
      (∀ r ∈ l.rows, r.installedRank < l.nextRank) ∧
      ∀ row, row.installedRank = l.nextRank →
        ∃ next, l.call (.append row) = (next, none) ∧ next.rows = l.rows ++ [row]) := by
  intro l
  have hasc : StrictlyAscending l.rows := by
    apply Ledger.strictlyAscending_callAll
    rw [Ledger.rows_empty]
    exact List.Pairwise.nil
  refine ⟨hasc, l.call_eq, fun row => Ledger.call_append_fails_iff,
    fun row => Ledger.call_delete_fails_iff, fun c e hfail => ?_, fun row next hcall => ?_,
    fun row next hcall => ?_, fun hbelow => ?_⟩
  · have hcall : l.call c = ((l.call c).1, some e) := by rw [← hfail]
    rw [(Ledger.call_eq_some_iff.1 hcall).1]
  · exact Ledger.exists_rows_of_append hasc (Ledger.call_eq_none_iff.1 hcall)
  · exact Ledger.exists_rows_of_delete hasc (Ledger.call_eq_none_iff.1 hcall)
  · have hroom := Ledger.hasRoom_one hbelow
    refine ⟨fun r hr => Ledger.lt_nextRank hroom hr, fun row hrank => ?_⟩
    obtain ⟨next, happend, hrows, -⟩ := Ledger.append_of_hasRoom hroom hrank
    exact ⟨next, Ledger.call_eq_none_iff.2 happend, hrows⟩

/-- Of four calls two fail, for a rank that is taken and for one that is not there; the row with a
negative rank comes first, and a row of the next rank last. -/
theorem calls_keep_ranks_distinct_negative :
    let view := Plain.row (-1) none "R__view.sql" 30
    let table := Plain.row 2 (some Plain.one) "V1__table.sql" 10
    let index := Plain.row 3 (some Plain.two) "V2__index.sql" 20
    let l := Ledger.empty.callAll [.append table, .append view,
      .append { view with installedRank := 2 }, .delete { view with installedRank := 7 }]
    l.rows = [view, table] ∧
      ∃ next, l.call (.append index) = (next, none) ∧ next.rows = [view, table, index] := by
  intro view table index l
  have hone : (Ledger.ofRows [table]).rows = [table] := sortBy_eq_of_perm (by decide) (by decide)
  have htwo : (Ledger.ofRows [table, view]).rows = [view, table] :=
    sortBy_eq_of_perm (by decide) (by decide)
  have hfirst : Ledger.empty.call (.append table) = (Ledger.ofRows [table], none) := by
    rw [Ledger.call_append_of_free (by simp [Ledger.hasRank]), Ledger.rows_empty, List.nil_append]
  have hsecond : (Ledger.ofRows [table]).call (.append view)
      = (Ledger.ofRows [table, view], none) := by
    rw [Ledger.call_append_of_free (by rw [Ledger.hasRank, hone]; decide), hone]
    rfl
  have hthird : (Ledger.ofRows [table, view]).call (.append { view with installedRank := 2 })
      = (Ledger.ofRows [table, view], _) :=
    Ledger.call_append_of_taken (by rw [Ledger.hasRank, htwo]; decide)
  have hmissing : (Ledger.ofRows [table, view]).hasRank 7 = false := by
    rw [Ledger.hasRank, htwo]
    decide
  have hl : l = Ledger.ofRows [table, view] := by
    simp only [l, Ledger.callAll_cons, Ledger.callAll_nil, hfirst, hsecond, hthird]
    exact Ledger.without_eq_self hmissing
  have hbelow : ∀ r ∈ l.rows, r.installedRank < Int32.maxValue := by
    rw [hl, htwo]
    decide
  have hrank : index.installedRank = l.nextRank := by
    rw [Ledger.nextRank, Ledger.lastRank?, hl, htwo]
    decide
  obtain ⟨-, -, -, -, -, -, -, hnext⟩ := calls_keep_ranks_distinct [.append table, .append view,
    .append { view with installedRank := 2 }, .delete { view with installedRank := 7 }]
  obtain ⟨next, hcall, hafter⟩ := (hnext hbelow).2 index hrank
  have hrows : l.rows = [view, table] := by rw [hl, htwo]
  exact ⟨hrows, next, hcall, hafter.trans (congrArg (· ++ [index]) hrows)⟩

end MigrationLedger
