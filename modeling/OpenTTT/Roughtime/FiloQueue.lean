import OpenTTT.Foundations.BinaryHeap
import OpenTTT.Foundations.Mealy
import OpenTTT.Runtime.Buffer
import Mathlib.Algebra.Order.Group.Multiset

/-!
# The queue of proofs

`FiloGrgQueue` of `roughtime/filo_queue.rs`, over a heap that compares its entries by their
timestamps. The heap of the standard library is a parameter.

A full queue rejects an entry that is not newer than its oldest one. Any other entry is pushed, and
none is removed for it. `len_le_capacity_iff` says which runs stay within the capacity, and
`len_growth` that no number of entries is out of reach.

`Delivers` is what the operations do to the entries in a queue, as multisets: entries with the same
timestamp compare as equal and are still different entries. `delivers` has it for every queue, and
`conserves` says that over a run no entry is lost or returned twice.
-/

namespace OpenTTT.Roughtime

structure PotQueueEntry where
  timestampNs : UInt64
  ctxId : String
  potBytes : Buffer
  grgCommitment : Vector UInt8 32
  mode : UInt8
  submittedNs : UInt64
  deriving DecidableEq, Inhabited

/-- What entries are compared by. -/
def PotQueueEntry.key (e : PotQueueEntry) : ℕ := e.timestampNs.toNat

/-- `BinaryHeap` of the standard library. -/
abbrev EntryHeap : Type 1 := MaxHeap PotQueueEntry PotQueueEntry.key

structure FiloGrgQueue (lib : EntryHeap) where
  heap : lib.Heap
  capacity : ℕ

namespace FiloGrgQueue

variable {lib : EntryHeap}

def new (lib : EntryHeap) (capacity : ℕ) : FiloGrgQueue lib := ⟨lib.new, capacity⟩

def len (self : FiloGrgQueue lib) : ℕ := lib.len self.heap

def isEmpty (self : FiloGrgQueue lib) : Bool := decide (self.len = 0)

/-- The least timestamp in the queue, and zero in an empty one. -/
def minTs (self : FiloGrgQueue lib) : UInt64 :=
  ((lib.iter self.heap).map PotQueueEntry.timestampNs).min?.getD 0

def push (self : FiloGrgQueue lib) (entry : PotQueueEntry) : Bool × FiloGrgQueue lib :=
  if self.len ≥ self.capacity then
    if entry.timestampNs ≤ self.minTs then (false, self)
    else (true, { self with heap := lib.push self.heap entry })
  else (true, { self with heap := lib.push self.heap entry })

def popNewest (self : FiloGrgQueue lib) : Option PotQueueEntry × FiloGrgQueue lib :=
  match lib.pop self.heap with
  | some (entry, heap) => (some entry, { self with heap := heap })
  | none => (none, self)

def peekNewest (self : FiloGrgQueue lib) : Option PotQueueEntry := lib.peek self.heap

/-- The loop of `drain_newer_than`. -/
def drainLoop (cutoffNs : UInt64) (heap : lib.Heap) : List PotQueueEntry × lib.Heap :=
  match lib.peek heap with
  | some e =>
    if e.timestampNs ≥ cutoffNs then
      match h : lib.pop heap with
      | some (entry, heap') =>
        have : lib.len heap' < lib.len heap := by rw [MaxHeap.len_of_pop h]; omega
        let (out, rest) := drainLoop cutoffNs heap'
        (entry :: out, rest)
      -- a heap with a greatest entry has one to pop
      | none => ([], heap)
    else ([], heap)
  | none => ([], heap)
termination_by lib.len heap

def drainNewerThan (self : FiloGrgQueue lib) (cutoffNs : UInt64) :
    List PotQueueEntry × FiloGrgQueue lib :=
  let (out, heap) := drainLoop cutoffNs self.heap
  (out, { self with heap := heap })

/-! ## Operations -/

inductive Operation
  | push (entry : PotQueueEntry)
  | popNewest
  | drainNewerThan (cutoffNs : UInt64)

/-- What an operation returns. -/
inductive Result
  | accepted (b : Bool)
  | popped (entry : Option PotQueueEntry)
  | drained (out : List PotQueueEntry)

def step (self : FiloGrgQueue lib) : Operation → Result × FiloGrgQueue lib
  | .push entry => (.accepted (self.push entry).1, (self.push entry).2)
  | .popNewest => (.popped self.popNewest.1, self.popNewest.2)
  | .drainNewerThan cutoffNs =>
    (.drained (self.drainNewerThan cutoffNs).1, (self.drainNewerThan cutoffNs).2)

/-! ## What an operation does to the entries -/

/-- The entries in a queue. -/
def entries (self : FiloGrgQueue lib) : Multiset PotQueueEntry := lib.iter self.heap

theorem timestampNs_le_of_key_le {a b : PotQueueEntry} (h : a.key ≤ b.key) :
    a.timestampNs ≤ b.timestampNs :=
  UInt64.le_iff_toNat_le.2 h

/-- What a queue does with its entries: a rejected one leaves it as it is, and what it returns is
the newest that it has. -/
structure Delivers (q : FiloGrgQueue lib) : Prop where
  push_of_rejected (entry : PotQueueEntry) :
    (q.push entry).1 = false → (q.push entry).2 = q
  push_of_accepted (entry : PotQueueEntry) :
    (q.push entry).1 = true → (q.push entry).2.entries = entry ::ₘ q.entries
  popNewest_none : q.popNewest.1 = none → q.entries = 0 ∧ q.popNewest.2 = q
  popNewest_some (entry : PotQueueEntry) : q.popNewest.1 = some entry →
    q.entries = entry ::ₘ q.popNewest.2.entries ∧
      ∀ e ∈ q.entries, e.timestampNs ≤ entry.timestampNs
  drained (cutoffNs : UInt64) : ((q.drainNewerThan cutoffNs).1 : Multiset PotQueueEntry) =
    q.entries.filter fun e => e.timestampNs ≥ cutoffNs
  newest_first (cutoffNs : UInt64) :
    (q.drainNewerThan cutoffNs).1.Pairwise fun a b => b.timestampNs ≤ a.timestampNs
  left (cutoffNs : UInt64) : (q.drainNewerThan cutoffNs).2.entries =
    q.entries.filter fun e => ¬ e.timestampNs ≥ cutoffNs

/-- What the loop returns and leaves is what it starts with. -/
theorem drainLoop_add (cutoffNs : UInt64) (heap : lib.Heap) :
    ((drainLoop cutoffNs heap).1 : Multiset PotQueueEntry) +
      (lib.iter (drainLoop cutoffNs heap).2 : Multiset PotQueueEntry) = lib.iter heap := by
  fun_induction drainLoop cutoffNs heap with
  | case1 heap e hpeek hnew entry heap' hpop hlt out rest hloop ih =>
    rw [hloop] at ih
    rw [← Multiset.cons_coe, Multiset.cons_add, ih, Multiset.cons_coe]
    exact (Multiset.coe_eq_coe.2 (lib.iter_of_pop hpop)).symm
  | case2 heap => exact zero_add _
  | case3 heap => exact zero_add _
  | case4 heap => exact zero_add _

/-- The loop returns entries at the cutoff or above it. -/
theorem le_of_mem_drainLoop (cutoffNs : UInt64) (heap : lib.Heap) :
    ∀ e ∈ (drainLoop cutoffNs heap).1, e.timestampNs ≥ cutoffNs := by
  fun_induction drainLoop cutoffNs heap with
  | case1 heap e hpeek hnew entry heap' hpop hlt out rest hloop ih =>
    rw [hloop] at ih
    -- the entry that is popped need not be the one that was peeked at
    have hge : e.timestampNs ≤ entry.timestampNs :=
      timestampNs_le_of_key_le (lib.le_of_pop hpop e (lib.mem_of_peek hpeek))
    rintro e' (_ | ⟨_, he'⟩)
    · exact UInt64.le_trans hnew hge
    · exact ih e' he'
  | case2 heap => exact fun e' he' => absurd he' List.not_mem_nil
  | case3 heap => exact fun e' he' => absurd he' List.not_mem_nil
  | case4 heap => exact fun e' he' => absurd he' List.not_mem_nil

/-- The loop leaves only entries below the cutoff. -/
theorem lt_of_mem_drainLoop (cutoffNs : UInt64) (heap : lib.Heap) :
    ∀ e ∈ lib.iter (drainLoop cutoffNs heap).2, ¬ e.timestampNs ≥ cutoffNs := by
  fun_induction drainLoop cutoffNs heap with
  | case1 heap e hpeek hnew entry heap' hpop hlt out rest hloop ih =>
    rw [hloop] at ih
    exact ih
  | case2 heap e hpeek hnew hpop =>
    rw [lib.iter_of_pop_none hpop]
    exact fun e' he' => absurd he' List.not_mem_nil
  | case3 heap e hpeek hold =>
    intro e' he' hnew
    exact hold (UInt64.le_trans hnew (timestampNs_le_of_key_le (lib.le_of_peek hpeek e' he')))
  | case4 heap hpeek =>
    rw [lib.iter_of_peek_none hpeek]
    exact fun e' he' => absurd he' List.not_mem_nil

/-- The loop returns the newest entry first. -/
theorem pairwise_drainLoop (cutoffNs : UInt64) (heap : lib.Heap) :
    (drainLoop cutoffNs heap).1.Pairwise fun a b => b.timestampNs ≤ a.timestampNs := by
  fun_induction drainLoop cutoffNs heap with
  | case1 heap e hpeek hnew entry heap' hpop hlt out rest hloop ih =>
    have hadd := drainLoop_add cutoffNs heap'
    rw [hloop] at ih hadd
    refine List.pairwise_cons.2 ⟨fun e' he' => ?_, ih⟩
    have hmem : e' ∈ lib.iter heap' :=
      Multiset.mem_coe.1 (hadd ▸ Multiset.mem_add.2 (.inl (Multiset.mem_coe.2 he')))
    exact timestampNs_le_of_key_le (lib.le_of_pop hpop e'
      ((lib.iter_of_pop hpop).mem_iff.2 (List.mem_cons_of_mem _ hmem)))
  | case2 heap => exact List.Pairwise.nil
  | case3 heap => exact List.Pairwise.nil
  | case4 heap => exact List.Pairwise.nil

/-- What the loop returns is what is at the cutoff or above it. -/
theorem filter_newer (cutoffNs : UInt64) (heap : lib.Heap) :
    (lib.iter heap : Multiset PotQueueEntry).filter (fun e => e.timestampNs ≥ cutoffNs) =
      (drainLoop cutoffNs heap).1 := by
  have hout : ((drainLoop cutoffNs heap).1 : Multiset PotQueueEntry).filter
      (fun e => e.timestampNs ≥ cutoffNs) = (drainLoop cutoffNs heap).1 :=
    Multiset.filter_eq_self.2 (le_of_mem_drainLoop cutoffNs heap)
  have hrest : (lib.iter (drainLoop cutoffNs heap).2 : Multiset PotQueueEntry).filter
      (fun e => e.timestampNs ≥ cutoffNs) = 0 :=
    Multiset.filter_eq_nil.2 (lt_of_mem_drainLoop cutoffNs heap)
  rw [← drainLoop_add cutoffNs heap, Multiset.filter_add, hout, hrest, add_zero]

/-- What the loop leaves is what is below the cutoff. -/
theorem filter_older (cutoffNs : UInt64) (heap : lib.Heap) :
    (lib.iter heap : Multiset PotQueueEntry).filter (fun e => ¬ e.timestampNs ≥ cutoffNs) =
      lib.iter (drainLoop cutoffNs heap).2 := by
  have hout : ((drainLoop cutoffNs heap).1 : Multiset PotQueueEntry).filter
      (fun e => ¬ e.timestampNs ≥ cutoffNs) = 0 :=
    Multiset.filter_eq_nil.2 fun e he => not_not.2 (le_of_mem_drainLoop cutoffNs heap e he)
  have hrest : (lib.iter (drainLoop cutoffNs heap).2 : Multiset PotQueueEntry).filter
      (fun e => ¬ e.timestampNs ≥ cutoffNs) = lib.iter (drainLoop cutoffNs heap).2 :=
    Multiset.filter_eq_self.2 (lt_of_mem_drainLoop cutoffNs heap)
  rw [← drainLoop_add cutoffNs heap, Multiset.filter_add, hout, hrest, zero_add]

theorem entries_push (self : FiloGrgQueue lib) (entry : PotQueueEntry) :
    FiloGrgQueue.entries { self with heap := lib.push self.heap entry } = entry ::ₘ self.entries :=
  Multiset.coe_eq_coe.2 (lib.iter_push self.heap entry)

/-- **Every queue delivers**, whatever has been done to it. -/
theorem delivers (self : FiloGrgQueue lib) : self.Delivers where
  push_of_rejected entry h := by
    rw [push] at h ⊢
    split_ifs at h ⊢
    rfl
  push_of_accepted entry h := by
    rw [push] at h ⊢
    split_ifs at h ⊢
    · exact entries_push self entry
    · exact entries_push self entry
  popNewest_none h := by
    rw [popNewest] at h ⊢
    cases hpop : lib.pop self.heap with
    | none => exact ⟨congrArg Multiset.ofList (lib.iter_of_pop_none hpop), rfl⟩
    | some p =>
      rw [hpop] at h
      cases h
  popNewest_some entry h := by
    rw [popNewest] at h ⊢
    cases hpop : lib.pop self.heap with
    | none =>
      rw [hpop] at h
      cases h
    | some p =>
      rw [hpop] at h
      obtain rfl : p.1 = entry := Option.some.inj h
      exact ⟨Multiset.coe_eq_coe.2 (lib.iter_of_pop hpop),
        fun e he => timestampNs_le_of_key_le (lib.le_of_pop hpop e (Multiset.mem_coe.1 he))⟩
  drained cutoffNs := (filter_newer cutoffNs self.heap).symm
  newest_first cutoffNs := pairwise_drainLoop cutoffNs self.heap
  left cutoffNs := (filter_older cutoffNs self.heap).symm

/-! ## What an operation does to the length -/

theorem len_drainLoop_le (cutoffNs : UInt64) (heap : lib.Heap) :
    lib.len (drainLoop cutoffNs heap).2 ≤ lib.len heap := by
  fun_induction drainLoop cutoffNs heap with
  | case1 heap e hpeek hnew entry heap' hpop hlt out rest hloop ih =>
    rw [hloop] at ih
    exact ih.trans hlt.le
  | case2 => exact le_rfl
  | case3 => exact le_rfl
  | case4 => exact le_rfl

/-- An entry that is accepted by a full queue: it is newer than the oldest one. -/
def Overfills (self : FiloGrgQueue lib) : Operation → Prop
  | .push entry => self.capacity ≤ self.len ∧ self.minTs < entry.timestampNs
  | _ => False

@[simp] theorem capacity_step (self : FiloGrgQueue lib) (op : Operation) :
    (self.step op).2.capacity = self.capacity := by
  cases op with
  | push entry =>
    simp only [step, push]
    split_ifs <;> rfl
  | popNewest =>
    simp only [step, popNewest]
    split <;> rfl
  | drainNewerThan cutoffNs => rfl

/-- **One operation** keeps the length within the capacity, unless it pushes to a full queue. -/
theorem len_step_le_iff {self : FiloGrgQueue lib} (h : self.len ≤ self.capacity)
    (op : Operation) :
    (self.step op).2.len ≤ (self.step op).2.capacity ↔ ¬ self.Overfills op := by
  rw [capacity_step]
  cases op with
  | push entry =>
    have hpushed : FiloGrgQueue.len { self with heap := lib.push self.heap entry } =
        self.len + 1 := lib.len_push self.heap entry
    simp only [step, push, Overfills]
    by_cases hfull : self.len ≥ self.capacity
    · rw [if_pos hfull]
      by_cases hold : entry.timestampNs ≤ self.minTs
      · rw [if_pos hold]
        exact iff_of_true h fun hover => UInt64.not_lt.2 hold hover.2
      · rw [if_neg hold, hpushed]
        exact iff_of_false (by omega) fun hover => hover ⟨hfull, UInt64.not_le.1 hold⟩
    · rw [if_neg hfull, hpushed]
      exact iff_of_true (by omega) fun hover => hfull hover.1
  | popNewest =>
    refine iff_of_true ?_ id
    simp only [step, popNewest]
    split
    · rename_i entry heap hpop
      have hlen : lib.len self.heap = lib.len heap + 1 := MaxHeap.len_of_pop hpop
      exact ((Nat.le_succ _).trans hlen.ge).trans h
    · exact h
  | drainNewerThan cutoffNs => exact iff_of_true ((len_drainLoop_le _ _).trans h) id

/-! ## Runs -/

theorem capacity_after (capacity : ℕ) (ops : List Operation) :
    (Mealy.after step (new lib capacity) ops).capacity = capacity :=
  Mealy.invariant_history step (P := fun _ s => s.capacity = capacity)
    (fun _ op s h => (capacity_step s op).trans h) rfl ops

/-- **When a queue stays within its capacity**: in every run, the length is within the capacity all
the time if and only if no entry is pushed to the queue while it is full that is newer than its
oldest entry. -/
theorem len_le_capacity_iff (lib : EntryHeap) (capacity : ℕ) (ops : List Operation) :
    (∀ i, (Mealy.after step (new lib capacity) (ops.take i)).len ≤ capacity) ↔
      ∀ i op, ops[i]? = some op →
        ¬ (Mealy.after step (new lib capacity) (ops.take i)).Overfills op := by
  have hrun := Mealy.forall_after_iff step (P := fun s : FiloGrgQueue lib => s.len ≤ s.capacity)
    (Q := fun s op => ¬ s.Overfills op) (fun s op h => len_step_le_iff h op)
    (s := new lib capacity) (lib.len_new.trans_le (Nat.zero_le capacity)) ops
  simpa only [capacity_after] using hrun

/-- The entries that an operation puts into the queue, by what it returns. -/
def enteredBy : Operation → Result → Multiset PotQueueEntry
  | .push entry, .accepted true => {entry}
  | _, _ => 0

/-- The entries that an operation returns. -/
def Result.entries : Result → Multiset PotQueueEntry
  | .accepted _ => 0
  | .popped entry => entry.toList
  | .drained out => out

/-- What enters a queue is returned or still there after one operation. -/
theorem entries_step (self : FiloGrgQueue lib) (op : Operation) :
    self.entries + enteredBy op (self.step op).1 =
      (self.step op).1.entries + (self.step op).2.entries := by
  cases op with
  | push entry =>
    simp only [step, enteredBy, Result.entries]
    cases hpush : (self.push entry).1 with
    | false =>
      rw [self.delivers.push_of_rejected entry hpush]
      exact add_comm ..
    | true =>
      rw [self.delivers.push_of_accepted entry hpush, zero_add, add_comm]
      exact Multiset.singleton_add ..
  | popNewest =>
    simp only [step, enteredBy, Result.entries]
    cases hpop : self.popNewest.1 with
    | none =>
      rw [(self.delivers.popNewest_none hpop).2]
      exact add_comm ..
    | some entry =>
      rw [(self.delivers.popNewest_some entry hpop).1, add_zero]
      exact (Multiset.singleton_add ..).symm
  | drainNewerThan cutoffNs =>
    simp only [step, enteredBy, Result.entries]
    rw [self.delivers.drained, self.delivers.left, Multiset.filter_add_not, add_zero]

/-- The entries for which `push` returned true. -/
def accepted (ops : List Operation) (results : List Result) : Multiset PotQueueEntry :=
  ((ops.zip results).map fun p => enteredBy p.1 p.2).sum

/-- The entries that were returned. -/
def returned (results : List Result) : Multiset PotQueueEntry :=
  (results.map Result.entries).sum

/-- **Newest first, without loss or duplication**: after every run the queue delivers the newest
of its entries, and the entries that it accepted are those that it returned and those that it
has. -/
theorem delivers_and_conserves (lib : EntryHeap) (capacity : ℕ) (ops : List Operation) :
    (Mealy.after step (new lib capacity) ops).Delivers ∧
      accepted ops (Mealy.outputs step (new lib capacity) ops) =
        returned (Mealy.outputs step (new lib capacity) ops) +
          (Mealy.after step (new lib capacity) ops).entries := by
  have hempty : (new lib capacity).entries = 0 := congrArg Multiset.ofList lib.iter_new
  have hrun := Mealy.conserved step entries (i := enteredBy) entries_step (new lib capacity) ops
  rw [hempty, zero_add] at hrun
  exact ⟨delivers _, hrun⟩

/-! ## Growth -/

/-- The oldest entry of a queue is older than an entry if any is. -/
theorem minTs_lt_of_mem {self : FiloGrgQueue lib} {e : PotQueueEntry}
    (he : e ∈ lib.iter self.heap) {t : UInt64} (ht : e.timestampNs < t) : self.minTs < t := by
  have hmem : e.timestampNs ∈ (lib.iter self.heap).map PotQueueEntry.timestampNs :=
    List.mem_map_of_mem he
  obtain ⟨m, hm⟩ : ∃ m, ((lib.iter self.heap).map PotQueueEntry.timestampNs).min? = some m :=
    Option.isSome_iff_exists.1 (List.isSome_min?_of_mem hmem)
  rw [minTs, hm, Option.getD_some]
  exact UInt64.lt_of_le_of_lt ((List.le_min?_iff hm).1 (UInt64.le_refl m) _ hmem) ht

/-- An entry that is newer than the oldest one is accepted. -/
theorem push_of_minTs_lt {self : FiloGrgQueue lib} {entry : PotQueueEntry}
    (h : self.minTs < entry.timestampNs) :
    self.push entry = (true, { self with heap := lib.push self.heap entry }) := by
  rw [push, if_neg (UInt64.not_le.2 h), ite_self]

/-- An entry with a timestamp. -/
def entryAt (timestampNs : UInt64) : PotQueueEntry :=
  ⟨timestampNs, "", [], Vector.replicate 32 0, 0, 0⟩

/-- An entry, and then only entries that are newer. -/
def growth : ℕ → List Operation
  | 0 => []
  | n + 1 => .push (entryAt 1) :: List.replicate n (.push (entryAt 2))

/-- A queue that has the oldest entry takes every newer one. -/
theorem len_after_replicate (n : ℕ) (s : FiloGrgQueue lib) (hs : entryAt 1 ∈ lib.iter s.heap) :
    (Mealy.after step s (List.replicate n (.push (entryAt 2)))).len = s.len + n := by
  induction n generalizing s with
  | zero => rfl
  | succ n ih =>
    have hpush : s.push (entryAt 2) = _ := push_of_minTs_lt (minTs_lt_of_mem hs (by decide))
    have hmem : entryAt 1 ∈ lib.iter (lib.push s.heap (entryAt 2)) :=
      (lib.iter_push s.heap (entryAt 2)).mem_iff.2 (List.mem_cons_of_mem _ hs)
    have hlen : FiloGrgQueue.len { s with heap := lib.push s.heap (entryAt 2) } = s.len + 1 :=
      lib.len_push s.heap (entryAt 2)
    rw [List.replicate_succ, Mealy.after_cons, step, hpush, ih _ hmem, hlen]
    omega

/-- **A queue grows without bound**, whatever its capacity. -/
theorem len_growth (lib : EntryHeap) (capacity n : ℕ) :
    (Mealy.after step (new lib capacity) (growth n)).len = n := by
  cases n with
  | zero => exact lib.len_new
  | succ n =>
    have hmin : (new lib capacity).minTs = 0 := by
      rw [minTs, new, lib.iter_new]
      rfl
    have hpush : (new lib capacity).push (entryAt 1) = _ :=
      push_of_minTs_lt (by rw [hmin]; decide)
    have hlen : lib.len (lib.push lib.new (entryAt 1)) = 1 := by
      rw [lib.len_push, lib.len_new]
    have hmem : entryAt 1 ∈ lib.iter (lib.push lib.new (entryAt 1)) :=
      (lib.iter_push lib.new (entryAt 1)).mem_iff.2 List.mem_cons_self
    have hrest := len_after_replicate n ⟨lib.push lib.new (entryAt 1), capacity⟩ hmem
    rw [growth, Mealy.after_cons, step, hpush]
    exact hrest.trans ((congrArg (· + n) hlen).trans (Nat.add_comm 1 n))

/-- The length of a queue with a capacity is never above it. -/
def RespectsCapacity (lib : EntryHeap) : Prop :=
  ∀ (capacity : ℕ) (ops : List Operation), 1 ≤ capacity →
    (Mealy.after step (new lib capacity) ops).len ≤ capacity

/-- A queue for one entry takes two: one that is pushed, and one that is newer. -/
theorem not_respectsCapacity : ¬ RespectsCapacity (BinaryHeap.maxHeap PotQueueEntry.key) := by
  intro h
  have hlen := h 1 (growth 2) le_rfl
  rw [len_growth] at hlen
  omega

end FiloGrgQueue

end OpenTTT.Roughtime
