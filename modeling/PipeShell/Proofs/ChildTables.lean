import PipeShell.Proofs.TableSlots
import PipeShell.Wiring

/-!
# The table of a stage

A stage starts from a copy of the shell's table.  `rewire` moves the descriptors
prepared for it to the numbers 0 and 1 and gives up those that they had, as well as the
one that the shell keeps for itself.  When the numbers 0 and 1 were in use already, only
these two come from the wiring.
-/

namespace PipeShell

/-- The number of an endpoint, if it has one of its own. -/
def Endpoint.fd? : Endpoint → Option Descriptor
  | .inherited => none
  | .descriptor fd => some fd

theorem Endpoint.fd?_eq_some {e : Endpoint} {fd : Descriptor} :
    e.fd? = some fd ↔ e = .descriptor fd := by
  cases e <;> simp [fd?]

/-- An endpoint stands for no file of its own, or for an open file that the shell holds
for the stage under one number. -/
inductive Endpoint.Leads : Endpoint → Option FileId → List (Descriptor × Holding) → Prop where
  | inherited : Leads .inherited none []
  | descriptor (fd : Descriptor) (file : FileId) :
      Leads (.descriptor fd) (some file) [(fd, ⟨file, true⟩)]

namespace Table

variable {t t' : Table} {e : Endpoint} {file? : Option FileId}
  {held : List (Descriptor × Holding)}

/-- A table in which an endpoint has been moved to the number of a standard stream. -/
structure Redirects (t : Table) (file? : Option FileId) (held : List (Descriptor × Holding))
    (slot : Descriptor) (t' : Table) : Prop where
  mem : ∀ entry ∈ t'.holdings, (entry ∈ t.holdings ∧ ∀ given ∈ held, given.1 ≠ entry.1) ∨
    ∃ file, file? = some file ∧ entry = (slot, ⟨file, false⟩)
  moved : ∀ file, file? = some file → t'.get? slot = some ⟨file, false⟩
  other : ∀ fd h, fd ≠ slot → (∀ entry ∈ held, entry.1 ≠ fd) → t.get? fd = some h →
    t'.get? fd = some h

theorem exists_redirect (slot : Descriptor) (he : e.Leads file? held)
    (hheld : ∀ entry ∈ held, t.get? entry.1 = some entry.2 ∧ entry.1 ≠ slot) :
    ∃ t', t.redirect e slot = .ok t' ∧ t.Redirects file? held slot t' := by
  cases he with
  | inherited => exact ⟨t, rfl, fun entry h ↦ .inl ⟨h, nofun⟩, nofun, fun _ _ _ _ h ↦ h⟩
  | descriptor fd file =>
      obtain ⟨hget, hne⟩ : t.get? fd = some ⟨file, true⟩ ∧ fd ≠ slot :=
        hheld _ List.mem_cons_self
      have hopen : (t.set slot ⟨file, false⟩).get? fd = some ⟨file, true⟩ :=
        get?_set_of_ne hget hne
      refine ⟨(t.set slot ⟨file, false⟩).erase fd, ?_, fun entry h ↦ ?_, ?_, ?_⟩
      · simp [redirect, hne, duplicate, hget, close, hopen, bind, Except.bind]
      · obtain ⟨h, hkept⟩ := mem_erase.1 h
        rcases mem_set h with rfl | h
        · exact .inr ⟨file, rfl, rfl⟩
        · exact .inl ⟨h, by simpa using Ne.symm hkept⟩
      · rintro _ ⟨⟩
        exact get?_erase_of_ne get?_set_self (Ne.symm hne)
      · intro fd' h hslot hother hget'
        exact get?_erase_of_ne (get?_set_of_ne hget' hslot)
          (Ne.symm (hother _ List.mem_cons_self))

/-- A table in which both endpoints of a stage have been moved, and nothing is left under the
numbers given. -/
structure Rewires (t : Table) (given : List Descriptor) (input output : Option FileId)
    (t' : Table) : Prop where
  mem : ∀ entry ∈ t'.holdings, (entry ∈ t.holdings ∧ entry.1 ∉ given) ∨
    (∃ file, input = some file ∧ entry = (0, ⟨file, false⟩)) ∨
    ∃ file, output = some file ∧ entry = (1, ⟨file, false⟩)
  zero : ∀ file, input = some file → t'.get? 0 = some ⟨file, false⟩
  one : ∀ file, output = some file → t'.get? 1 = some ⟨file, false⟩

/-- Rewiring goes through when the shell holds what it prepared under numbers of their
own, other than 0 and 1. -/
theorem exists_rewire {ends : StageEnds} {input output : Option FileId}
    {inputHeld outputHeld : List (Descriptor × Holding)}
    (hin : ends.input.Leads input inputHeld) (hout : ends.output.Leads output outputHeld)
    (hheld : ∀ entry ∈ outputHeld ++ inputHeld,
      t.get? entry.1 = some entry.2 ∧ entry.1 ≠ 0 ∧ entry.1 ≠ 1)
    (hapart : ∀ entry ∈ inputHeld, ∀ entry' ∈ outputHeld, entry.1 ≠ entry'.1)
    (hstray : ∀ fd, ends.stray = some fd → fd ≠ 0 ∧ fd ≠ 1) :
    ∃ t', rewire ends t = .ok t' ∧
      t.Rewires ((outputHeld ++ inputHeld).map Prod.fst ++ ends.stray.toList) input output t' := by
  obtain ⟨t₁, hfirst, hmem₁, hmoved₁, hother₁⟩ := exists_redirect (t := t) 0 hin
    fun entry h ↦
      let ⟨hget, hzero, _⟩ := hheld entry (List.mem_append_right _ h)
      ⟨hget, hzero⟩
  have hheld₁ : ∀ entry ∈ outputHeld, t₁.get? entry.1 = some entry.2 ∧ entry.1 ≠ 1 := by
    intro entry h
    obtain ⟨hget, hzero, hone⟩ := hheld entry (List.mem_append_left _ h)
    exact ⟨hother₁ _ _ hzero (fun entry' h' ↦ hapart entry' h' entry h) hget, hone⟩
  obtain ⟨t₂, hsecond, hmem₂, hmoved₂, hother₂⟩ := exists_redirect 1 hout hheld₁
  -- Neither number is one under which the shell holds something for the stage.
  have hzero : ∀ file, input = some file → t₂.get? 0 = some ⟨file, false⟩ := by
    intro file hfile
    refine hother₂ 0 _ (by decide) (fun entry h ↦ ?_) (hmoved₁ file hfile)
    exact (hheld entry (List.mem_append_left _ h)).2.1
  have hmem : ∀ entry ∈ t₂.holdings,
      (entry ∈ t.holdings ∧ entry.1 ∉ (outputHeld ++ inputHeld).map Prod.fst) ∨
      (∃ file, input = some file ∧ entry = (0, ⟨file, false⟩)) ∨
      ∃ file, output = some file ∧ entry = (1, ⟨file, false⟩) := by
    intro entry h
    rcases hmem₂ entry h with ⟨h, houtput⟩ | h
    · rcases hmem₁ entry h with ⟨h, hinput⟩ | h
      · refine .inl ⟨h, fun hgiven ↦ ?_⟩
        obtain ⟨given, hgiven, heq⟩ := List.mem_map.1 hgiven
        rcases List.mem_append.1 hgiven with hgiven | hgiven
        · exact houtput given hgiven heq
        · exact hinput given hgiven heq
      · exact .inr (.inl h)
    · exact .inr (.inr h)
  cases hends : ends.stray with
  | none =>
      refine ⟨t₂, ?_, ?_, hzero, hmoved₂⟩
      · simp [rewire, hfirst, hsecond, hends, bind, Except.bind, pure, Except.pure]
      · rw [Option.toList_none, List.append_nil]
        exact hmem
  | some fd =>
      obtain ⟨hne_zero, hne_one⟩ := hstray fd hends
      refine ⟨t₂.erase fd, ?_, fun entry h ↦ ?_, ?_, ?_⟩
      · simp [rewire, hfirst, hsecond, hends, bind, Except.bind, pure, Except.pure]
      · obtain ⟨h, hkept⟩ := mem_erase.1 h
        refine (hmem entry h).imp_left fun ⟨h, hgiven⟩ ↦ ⟨h, ?_⟩
        rw [List.mem_append]
        exact not_or.2 ⟨hgiven, by simpa using hkept⟩
      · exact fun file hfile ↦ get?_erase_of_ne (hzero file hfile) (Ne.symm hne_zero)
      · exact fun file hfile ↦ get?_erase_of_ne (hmoved₂ file hfile) (Ne.symm hne_one)

end Table

end PipeShell
