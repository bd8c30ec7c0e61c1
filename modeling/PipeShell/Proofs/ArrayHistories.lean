import Mathlib
import PipeShell.Growable

/-!
# Histories of arrays that double

Several arrays are held under names, and operations are applied to them in any order.  Their
items are those of lists to which the same is done, and an operation changes no array but the
one that it is applied to.  The room of an array changes only with a push onto a full array.
So it keeps the memory of the greatest size that the array has had: from the making of an array
on, and as long as no copy takes its place, its room is the least power of two that was enough.
-/

namespace PipeShell.Growable

universe u v

variable {ν : Type u} {α : Type v}

/-! ## The room that a size needs -/

theorem grown_eq (g : Growable α) :
    g.grown = if g.size = g.capacity then max 1 (2 * g.capacity) else g.capacity := by
  unfold grown
  split <;> omega

theorem toList_pushAll (g : Growable α) (values : List α) :
    (g.pushAll values).toList = g.toList ++ values := by
  induction values generalizing g with
  | nil => exact (List.append_nil _).symm
  | cons a values ih =>
      have hrest : ((g.push a).pushAll values).toList = (g.push a).toList ++ values :=
        ih (g.push a)
      rw [toList_push, List.append_assoc, List.singleton_append] at hrest
      exact hrest

theorem size_push (g : Growable α) (a : α) : (g.push a).size = g.size + 1 :=
  Array.size_push a

theorem size_pushAll (g : Growable α) (values : List α) :
    (g.pushAll values).size = g.size + values.length := by
  rw [← length_toList, toList_pushAll, List.length_append, length_toList]

/-- Arrays are the same value exactly if their items are the same. -/
theorem beq_iff_toList_eq [DecidableEq α] (g h : Growable α) :
    (g == h) = true ↔ g.toList = h.toList := by
  have hitems : (g == h) = (g.items == h.items) := rfl
  rw [hitems, beq_iff_eq, toList, toList, Array.toList_inj]

/-- The array has held at most `peak` values at a time, and its room is the least power of two
that is enough for so many. -/
structure Tight (g : Growable α) (peak : ℕ) : Prop where
  size_le : g.size ≤ peak
  capacity_eq : g.capacity = 2 ^ Nat.clog 2 peak

theorem tight_empty : Tight (empty : Growable α) 0 :=
  ⟨Nat.le_refl 0, rfl⟩

variable {g : Growable α} {peak : ℕ}

theorem Tight.clear (h : Tight g peak) : Tight g.clear peak :=
  ⟨Nat.zero_le peak, h.capacity_eq⟩

theorem Tight.push (h : Tight g peak) (a : α) : Tight (g.push a) (max peak (g.size + 1)) := by
  obtain ⟨hsize, hcapacity⟩ := h
  have hroom : g.size ≤ g.capacity := g.size_le
  have hpeak : peak ≤ 2 ^ Nat.clog 2 peak := Nat.le_pow_clog Nat.one_lt_two peak
  refine ⟨(size_push g a).le.trans (le_max_right _ _), ?_⟩
  change g.grown = _
  by_cases hfull : g.size = g.capacity
  · -- A full array is at its peak, which is a power of two.
    have hmax : max peak (g.size + 1) = 2 ^ Nat.clog 2 peak + 1 := by omega
    have hpos : 0 < 2 ^ Nat.clog 2 peak := Nat.two_pow_pos _
    have hclog : Nat.clog 2 (2 ^ Nat.clog 2 peak + 1) = Nat.clog 2 peak + 1 := by
      refine (Nat.clog_le_of_le_pow ?_).antisymm
        ((Nat.lt_clog_iff_pow_lt Nat.one_lt_two).2 (Nat.lt_succ_self _))
      rw [pow_succ]
      omega
    rw [grown_eq, if_pos hfull, hmax, hclog, hcapacity, pow_succ]
    omega
  · have hle : max peak (g.size + 1) ≤ 2 ^ Nat.clog 2 peak := by omega
    have hclog : Nat.clog 2 (max peak (g.size + 1)) = Nat.clog 2 peak :=
      (Nat.clog_le_of_le_pow hle).antisymm (Nat.clog_mono_right 2 (le_max_left _ _))
    rw [grown_eq, if_neg hfull, hclog, hcapacity]

theorem Tight.push_of_size (h : Tight g (max peak g.size)) (a : α) :
    Tight (g.push a) (max peak (g.push a).size) := by
  have hpush := h.push a
  rwa [max_assoc, max_eq_right (Nat.le_add_right g.size 1), ← size_push g a] at hpush

/-- An array that has held more at a time has no less room. -/
theorem Tight.capacity_le {g' : Growable α} {peak' : ℕ} (h : Tight g peak) (h' : Tight g' peak')
    (hle : peak ≤ peak') : g.capacity ≤ g'.capacity := by
  rw [h.capacity_eq, h'.capacity_eq]
  exact Nat.pow_le_pow_right Nat.two_pos (Nat.clog_mono_right 2 hle)

theorem Tight.pushAll (h : Tight g peak) (values : List α) :
    Tight (g.pushAll values) (max peak (g.size + values.length)) := by
  induction values generalizing g peak with
  | nil =>
      rw [List.length_nil, Nat.add_zero, max_eq_left h.size_le]
      exact h
  | cons a values ih =>
      have hrest := ih (h.push a)
      have hpeak : max (max peak (g.size + 1)) ((g.push a).size + values.length) =
          max peak (g.size + (a :: values).length) := by
        rw [size_push, List.length_cons]
        omega
      rw [hpeak] at hrest
      exact hrest

/-- The room of a tight array is the least power of two that holds its peak and one value. -/
theorem Tight.isLeast (h : Tight g peak) :
    IsLeast {room | (∃ k, room = 2 ^ k) ∧ max 1 peak ≤ room} g.capacity := by
  rw [h.capacity_eq]
  refine ⟨⟨⟨_, rfl⟩, max_le Nat.one_le_two_pow (Nat.le_pow_clog Nat.one_lt_two peak)⟩, ?_⟩
  rintro _ ⟨⟨k, rfl⟩, hk⟩
  exact Nat.pow_le_pow_right Nat.two_pos
    (Nat.clog_le_of_le_pow ((le_max_right 1 peak).trans hk))

/-! ## Operations on named arrays -/

/-- What is done to the array of a name. -/
inductive Operation (ν : Type u) (α : Type v) where
  | new (x : ν)
  | default (x : ν)
  | collect (x : ν) (values : List α)
  | push (x : ν) (a : α)
  | clear (x : ν)
  /-- A copy of the array of another name takes the place of the array. -/
  | copy (x source : ν)
  /-- The array is taken out, and a default one is left in its place. -/
  | take (x : ν)
  deriving DecidableEq, Repr

namespace Operation

/-- The name of the array that an operation is applied to. -/
def target : Operation ν α → ν
  | new x | default x | collect x _ | push x _ | clear x | copy x _ | take x => x

/-- The array that an operation leaves at its target. -/
def array (s : ν → Growable α) : Operation ν α → Growable α
  | new _ => empty
  | default _ => Inhabited.default
  | collect _ values => ofList values
  | push x a => (s x).push a
  | clear x => (s x).clear
  | copy _ source => (s source).copy
  | take _ => Inhabited.default

/-- The list that the same operation on lists leaves at its target. -/
def list (s : ν → List α) : Operation ν α → List α
  | new _ => []
  | default _ => []
  | collect _ values => values
  | push x a => s x ++ [a]
  | clear _ => []
  | copy _ source => s source
  | take _ => []

/-- The operation makes the array of its target anew. -/
def Makes (x : ν) : Operation ν α → Prop
  | new y | default y | collect y _ | take y => y = x
  | _ => False

/-- The operation puts another array in the place of the array, a new one or a copy. -/
def Replaces (x : ν) : Operation ν α → Prop
  | copy y _ => y = x
  | op => op.Makes x

theorem target_of_makes {x : ν} {op : Operation ν α} (h : op.Makes x) : op.target = x := by
  cases op with
  | push | clear | copy => exact h.elim
  | _ => exact h

end Operation

open Operation

/-- The items of named arrays. -/
def lists (s : ν → Growable α) : ν → List α :=
  toList ∘ s

theorem toList_array (s : ν → Growable α) (op : Operation ν α) :
    (op.array s).toList = op.list (lists s) := by
  cases op with
  | collect x values => exact toList_pushAll empty values
  | push x a => exact toList_push (s x) a
  | new | default | clear | copy | take => rfl

variable [DecidableEq ν] {s : ν → Growable α} {x : ν} {op : Operation ν α}

def perform (s : ν → Growable α) (op : Operation ν α) : ν → Growable α :=
  Function.update s op.target (op.array s)

def performOnLists (s : ν → List α) (op : Operation ν α) : ν → List α :=
  Function.update s op.target (op.list s)

theorem perform_target (s : ν → Growable α) (op : Operation ν α) :
    perform s op op.target = op.array s :=
  Function.update_self ..

theorem perform_of_ne (h : x ≠ op.target) : perform s op x = s x :=
  Function.update_of_ne h ..

theorem lists_perform (s : ν → Growable α) (op : Operation ν α) :
    lists (perform s op) = performOnLists (lists s) op := by
  rw [lists, perform, Function.comp_update, toList_array]
  rfl

theorem lists_foldl_perform (s : ν → Growable α) (history : List (Operation ν α)) :
    lists (history.foldl perform s) = history.foldl performOnLists (lists s) := by
  induction history generalizing s with
  | nil => rfl
  | cons op history ih => rw [List.foldl_cons, List.foldl_cons, ih, lists_perform]

/-! ## The room of an array over its history -/

theorem tight_of_makes (s : ν → Growable α) (h : op.Makes x) :
    Tight (perform s op x) (perform s op x).size := by
  rw [← target_of_makes h, perform_target]
  cases op with
  | new | default | take => exact tight_empty
  | collect y values =>
      have htight : Tight (ofList values) (ofList values).size := by
        have hall := tight_empty.pushAll values
        rw [max_eq_right (Nat.zero_le _), ← size_pushAll] at hall
        exact hall
      exact htight
  | push | clear | copy => exact h.elim

/-- An operation that puts no other array in its place keeps an array tight. -/
theorem Tight.after (h : Tight (s x) peak) (hkeeps : ¬ op.Replaces x) :
    Tight (perform s op x) (max (perform s op x).size peak) := by
  by_cases hx : x = op.target
  · subst hx
    rw [perform_target]
    cases op with
    | push y a =>
        have hpush := h.push a
        rw [← size_push, max_comm] at hpush
        exact hpush
    | clear y => exact max_eq_right (Nat.zero_le peak) ▸ h.clear
    | new | default | collect | copy | take => exact (hkeeps rfl).elim
  · rw [perform_of_ne hx, max_eq_right h.size_le]
    exact h

/-- The sizes that an array has had during some operations. -/
def sizes (s : ν → Growable α) (x : ν) (since : List (Operation ν α)) : Set ℕ :=
  {size | ∃ front, front <+: since ∧ size = (front.foldl perform s x).size}

theorem sizes_nil (s : ν → Growable α) (x : ν) : sizes s x [] = {(s x).size} := by
  ext size
  simp [sizes]

theorem sizes_concat (s : ν → Growable α) (x : ν) (since : List (Operation ν α))
    (op : Operation ν α) :
    sizes s x (since ++ [op]) =
      insert ((since ++ [op]).foldl perform s x).size (sizes s x since) := by
  ext size
  simp only [sizes, List.prefix_concat_iff, Set.mem_ofPred_eq, Set.mem_insert_iff, or_and_right,
    exists_or, exists_eq_left]

/-- A tight array stays so as long as no other takes its place, with its greatest size as its
peak. -/
theorem Tight.exists_peak (h : Tight (s x) (s x).size) (since : List (Operation ν α))
    (hkeeps : ∀ op ∈ since, ¬ op.Replaces x) :
    ∃ peak, IsGreatest (sizes s x since) peak ∧ Tight (since.foldl perform s x) peak := by
  induction since using List.reverseRecOn with
  | nil => exact ⟨(s x).size, sizes_nil s x ▸ isGreatest_singleton, h⟩
  | append_singleton since op ih =>
      obtain ⟨peak, hgreatest, htight⟩ := ih fun op hop ↦ hkeeps op (List.mem_append_left _ hop)
      have hnext := htight.after (hkeeps op List.mem_concat_self)
      rw [← List.foldl_concat perform] at hnext
      exact ⟨_, sizes_concat s x since op ▸ hgreatest.insert _, hnext⟩

theorem foldl_push (s : ν → Growable α) (x : ν) (values : List α) :
    (values.map (Operation.push x)).foldl perform s =
      Function.update s x ((s x).pushAll values) := by
  induction values generalizing s with
  | nil => exact (Function.update_eq_self x s).symm
  | cons a values ih =>
      have hpush : perform s (.push x a) = Function.update s x ((s x).push a) := rfl
      rw [List.map_cons, List.foldl_cons, ih, hpush, Function.update_self, Function.update_idem]
      rfl

/-- What an operation does to the room of arrays. -/
structure DoublesRoom (s : ν → Growable α) : Prop where
  others : ∀ op x, x ≠ op.target → perform s op x = s x
  keeps : ∀ op x, ¬ op.Replaces x → (∀ a, op = .push x a → (s x).size ≠ (s x).capacity) →
    (perform s op x).capacity = (s x).capacity
  doubles : ∀ x a, (s x).size = (s x).capacity →
    (perform s (.push x a) x).capacity = max 1 (2 * (s x).capacity)
  copied : ∀ x source, (perform s (.copy x source) x).capacity = (s source).toList.length
  afresh : ∀ x, ∀ op ∈ [.new x, .default x, .take x], (perform s op x).capacity = 1
  collected : ∀ x values, perform s (.collect x values) =
    (values.map (.push x)).foldl perform (perform s (.new x))

theorem doublesRoom (s : ν → Growable α) : DoublesRoom s where
  others _ _ hx := perform_of_ne hx
  keeps op x hreplaces hroom := by
    by_cases hx : x = op.target
    · subst hx
      rw [perform_target]
      cases op with
      | push y a => exact (grown_eq (s y)).trans (if_neg (hroom a rfl))
      | clear y => rfl
      | new | default | collect | copy | take => exact (hreplaces rfl).elim
    · rw [perform_of_ne hx]
  doubles x a hfull := by
    have hpush : perform s (.push x a) x = (s x).push a := perform_target s (.push x a)
    rw [hpush]
    exact (grown_eq (s x)).trans (if_pos hfull)
  copied x source := by
    have hcopy : perform s (.copy x source) x = (s source).copy := perform_target s (.copy x source)
    rw [hcopy]
    exact Array.length_toList.symm
  afresh x op hop := by
    simp only [List.mem_cons, List.not_mem_nil, or_false] at hop
    rcases hop with rfl | rfl | rfl <;> exact congrArg capacity (perform_target s _)
  collected x values := by
    have hnew : perform s (.new x) = Function.update s x empty := rfl
    rw [foldl_push, hnew, Function.update_self, Function.update_idem]
    rfl

/-- Over every history, the items of named arrays are those of lists, their values are equal
exactly if the lists are, and every array has room for its items.  At any time an operation
leaves the other arrays as they are, and changes the room of its own only if it pushes onto a
full array or puts another array in its place.  So an array that was made at some time and has
had no copy in its place since has the least power of two as its room that is enough for one
value and for the greatest size that it has had. -/
theorem lists_with_doubling_room [DecidableEq α] (s : ν → Growable α)
    (history : List (Operation ν α)) :
    let now := history.foldl perform s
    (lists now = history.foldl performOnLists (lists s) ∧
      ∀ x y, (now x == now y) = true ↔ lists now x = lists now y) ∧
    ((∀ x, (now x).size ≤ (now x).capacity) ∧ DoublesRoom now) ∧
    ∀ before made since x, history = before ++ made :: since → made.Makes x →
      (∀ op ∈ since, ¬ op.Replaces x) →
      ∃ peak, IsGreatest (sizes ((before ++ [made]).foldl perform s) x since) peak ∧
        IsLeast {room | (∃ k, room = 2 ^ k) ∧ max 1 peak ≤ room} (now x).capacity := by
  intro now
  refine ⟨⟨lists_foldl_perform s history, fun x y ↦ beq_iff_toList_eq (now x) (now y)⟩,
    ⟨fun x ↦ (now x).size_le, doublesRoom now⟩, ?_⟩
  intro before made since x hhistory hmade hkeeps
  have hfresh : Tight ((before ++ [made]).foldl perform s x)
      ((before ++ [made]).foldl perform s x).size := by
    rw [List.foldl_concat]
    exact tight_of_makes _ hmade
  obtain ⟨peak, hgreatest, htight⟩ := hfresh.exists_peak since hkeeps
  rw [← List.foldl_append, List.append_assoc, List.singleton_append, ← hhistory] at htight
  exact ⟨peak, hgreatest, htight.isLeast⟩

/-- A copy of three values doubles to six; the array they came from keeps its four when it is
cleared. -/
example :
    let history : List (Operation Bool String) :=
      [.collect true ["a", "b", "c"], .copy false true, .push false "d", .clear true]
    let now := history.foldl perform fun _ ↦ empty
    ((now false).toList, (now false).capacity) = (["a", "b", "c", "d"], 6) ∧
      ((now true).toList, (now true).capacity) = ([], 4) := by
  decide

end PipeShell.Growable
