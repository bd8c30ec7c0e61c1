import PipeShell.System.Table

/-!
# The numbers of a table

A number is free exactly when no entry has it.  What `set`, `erase` and `afterExec`
do to one number they do to no other, and a number that was free is free again when
what was put there is given up: then the table is the one that it was.
-/

namespace PipeShell.Table

variable {t : Table} {fd fd' : Descriptor} {h : Holding}

theorem get?_eq_none_iff : t.get? fd = none ↔ ∀ entry ∈ t.holdings, entry.1 ≠ fd := by
  simp only [get?, List.lookup_eq_none_iff, bne_iff_ne, ne_comm]

theorem mem_of_get? (hget : t.get? fd = some h) : (fd, h) ∈ t.holdings := by
  obtain ⟨front, back, hholdings, -⟩ := List.lookup_eq_some_iff.1 hget
  rw [hholdings]
  exact List.mem_append_right _ List.mem_cons_self

theorem get?_cons (entry : Descriptor × Holding) (rest : List (Descriptor × Holding)) :
    (⟨entry :: rest⟩ : Table).get? fd =
      if entry.1 = fd then some entry.2 else (⟨rest⟩ : Table).get? fd := by
  obtain ⟨number, held⟩ := entry
  by_cases heq : number = fd
  · simp [get?, heq]
  · simp [get?, List.lookup_cons, heq, beq_eq_false_iff_ne.2 (Ne.symm heq)]

theorem get?_filter {keep : Descriptor × Holding → Bool} (hget : t.get? fd = some h)
    (hkeep : keep (fd, h) = true) : (⟨t.holdings.filter keep⟩ : Table).get? fd = some h := by
  obtain ⟨holdings⟩ := t
  induction holdings with
  | nil => cases hget
  | cons entry rest ih =>
      rw [get?_cons] at hget
      split at hget
      next heq =>
        obtain rfl : entry = (fd, h) := Prod.ext heq (Option.some.inj hget)
        rw [List.filter_cons_of_pos hkeep, get?_cons, if_pos rfl]
      next hne =>
        rw [List.filter_cons]
        split
        · rw [get?_cons, if_neg hne]
          exact ih hget
        · exact ih hget

/-! ## Giving a number up -/

theorem mem_erase {entry : Descriptor × Holding} :
    entry ∈ (t.erase fd).holdings ↔ entry ∈ t.holdings ∧ entry.1 ≠ fd := by
  simp [erase]

theorem erase_of_get?_eq_none (hfree : t.get? fd = none) : t.erase fd = t := by
  obtain ⟨holdings⟩ := t
  rw [get?_eq_none_iff] at hfree
  simpa [erase] using hfree

theorem get?_erase_of_ne (hget : t.get? fd' = some h) (hne : fd' ≠ fd) :
    (t.erase fd).get? fd' = some h :=
  get?_filter hget (by simpa using hne)

theorem get?_erase (t : Table) (fd fd' : Descriptor) :
    (t.erase fd).get? fd' = if fd' = fd then none else t.get? fd' := by
  split
  next heq =>
    rw [get?_eq_none_iff]
    intro entry hentry
    exact heq ▸ (mem_erase.1 hentry).2
  next hne =>
    cases hget : t.get? fd' with
    | some h => exact get?_erase_of_ne hget hne
    | none =>
        rw [get?_eq_none_iff] at hget ⊢
        exact fun entry hentry ↦ hget entry (mem_erase.1 hentry).1

/-! ## Putting something under a number -/

theorem set_of_get?_eq_none (hfree : t.get? fd = none) :
    t.set fd h = ⟨(fd, h) :: t.holdings⟩ := by
  rw [set, erase_of_get?_eq_none hfree]

theorem mem_set {entry : Descriptor × Holding} (hmem : entry ∈ (t.set fd h).holdings) :
    entry = (fd, h) ∨ entry ∈ t.holdings := by
  rcases List.mem_cons.1 hmem with heq | hmem
  · exact .inl heq
  · exact .inr (mem_erase.1 hmem).1

theorem get?_set_self : (t.set fd h).get? fd = some h := by
  rw [set, get?_cons, if_pos rfl]

theorem get?_set_of_ne {h' : Holding} (hget : t.get? fd' = some h') (hne : fd' ≠ fd) :
    (t.set fd h).get? fd' = some h' := by
  rw [set, get?_cons, if_neg (Ne.symm hne)]
  exact get?_erase_of_ne hget hne

theorem get?_set (t : Table) (fd : Descriptor) (h : Holding) (fd' : Descriptor) :
    (t.set fd h).get? fd' = if fd' = fd then some h else t.get? fd' := by
  rw [set, get?_cons]
  by_cases heq : fd' = fd
  · rw [if_pos heq.symm, if_pos heq]
  · rw [if_neg (Ne.symm heq), if_neg heq]
    exact (get?_erase t fd fd').trans (if_neg heq)

theorem get?_of_bound_le (hbound : t.bound ≤ fd) : t.get? fd = none := by
  rw [get?_eq_none_iff]
  obtain ⟨holdings⟩ := t
  induction holdings with
  | nil => simp
  | cons entry rest ih =>
      obtain ⟨hentry, hrest⟩ : entry.1 + 1 ≤ fd ∧ (⟨rest⟩ : Table).bound ≤ fd :=
        Nat.max_le.1 hbound
      intro e he
      rcases List.mem_cons.1 he with rfl | he
      · exact Nat.ne_of_lt hentry
      · exact ih hrest e he

theorem get?_free (t : Table) (least : Descriptor) : t.get? (t.free least) = none := by
  unfold free
  cases hfind : (List.range' least t.holdings.length).find? fun fd ↦ (t.get? fd).isNone with
  | none => exact get?_of_bound_le (Nat.le_max_right least t.bound)
  | some fd =>
      have hfree := List.find?_some hfind
      exact Option.isNone_iff_eq_none.1 hfree

/-! ## Going on as another program -/

theorem mem_afterExec {entry : Descriptor × Holding} :
    entry ∈ t.afterExec.holdings ↔ entry ∈ t.holdings ∧ entry.2.closeOnExec = false := by
  simp [afterExec]

theorem get?_afterExec (hget : t.get? fd = some h) (hkept : h.closeOnExec = false) :
    t.afterExec.get? fd = some h :=
  get?_filter hget (by simpa using hkept)

/-! ## Numbers that are used once -/

/-- No number is used twice. -/
def Numbered (t : Table) : Prop :=
  (t.holdings.map Prod.fst).Nodup

theorem Numbered.erase (ht : t.Numbered) (fd : Descriptor) : (t.erase fd).Numbered :=
  ht.sublist (List.filter_sublist.map Prod.fst)

theorem Numbered.set (ht : t.Numbered) (fd : Descriptor) (h : Holding) : (t.set fd h).Numbered := by
  refine List.nodup_cons.2 ⟨fun hmem ↦ ?_, ht.erase fd⟩
  obtain ⟨entry, hentry, hfd⟩ := List.mem_map.1 hmem
  exact (mem_erase.1 hentry).2 hfd

theorem Numbered.get?_of_mem (ht : t.Numbered) {entry : Descriptor × Holding}
    (hentry : entry ∈ t.holdings) : t.get? entry.1 = some entry.2 := by
  obtain ⟨holdings⟩ := t
  induction holdings with
  | nil => cases hentry
  | cons first rest ih =>
      obtain ⟨hfirst, hrest⟩ := List.nodup_cons.1 ht
      rw [get?_cons]
      rcases List.mem_cons.1 hentry with rfl | hentry
      · exact if_pos rfl
      · have hne : first.1 ≠ entry.1 := fun heq ↦
          hfirst (heq ▸ List.mem_map_of_mem hentry)
        rw [if_neg hne]
        exact ih hrest hentry

/-- The next program gets what is not marked to be given up. -/
theorem Numbered.get?_afterExec (ht : t.Numbered) (fd : Descriptor) :
    t.afterExec.get? fd = (t.get? fd).filter (!·.closeOnExec) := by
  cases hget : t.get? fd with
  | none =>
      rw [get?_eq_none_iff] at hget
      exact get?_eq_none_iff.2 fun entry hentry ↦ hget entry (mem_afterExec.1 hentry).1
  | some h =>
      cases hkept : h.closeOnExec with
      | false =>
          rw [Option.filter_some_pos (by simpa using hkept)]
          exact Table.get?_afterExec hget hkept
      | true =>
          rw [Option.filter_some_neg (by simpa using hkept), get?_eq_none_iff]
          rintro entry hentry rfl
          obtain ⟨hmem, hfalse⟩ := mem_afterExec.1 hentry
          obtain rfl := Option.some.inj (hget.symm.trans (ht.get?_of_mem hmem))
          rw [hkept] at hfalse
          cases hfalse

end PipeShell.Table
