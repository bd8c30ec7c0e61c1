import Mathlib
import PipeShell.Proofs.ChildTables

/-!
# When a stage gets its standard streams

The descriptors that are prepared for a stage are moved to the numbers 0 and 1 one after the
other, and the stray one is given up.  Each step can be in the way of another if one of the
descriptors has one of these numbers already, as when the shell itself was started without its
standard streams: what is put there overwrites it, what is given up takes it away again, and
what is left in its place is given up with the old program.  So the stage gets its streams
exactly if none of its descriptors stands there, but for an input that has the number 1 and
makes room for the output.
-/

namespace PipeShell

/-! ## Moving one endpoint -/

namespace Table

/-- What is under a number when an endpoint has been moved to that of a standard stream. -/
def movedTo (slot : Descriptor) (e : Endpoint) (under : Descriptor → Option Holding)
    (n : Descriptor) : Option Holding :=
  match e with
  | .inherited => under n
  | .descriptor fd =>
      if fd = slot then under n
      else if n = fd then none
      else if n = slot then (under fd).map fun h ↦ ⟨h.file, false⟩
      else under n

variable {t : Table} {slot n : Descriptor} {e : Endpoint}
  {under : Descriptor → Option Holding}

theorem exists_redirect_get? (hopen : ∀ fd, e = .descriptor fd → (t.get? fd).isSome)
    (slot : Descriptor) : ∃ t', t.redirect e slot = .ok t' ∧
      (t.Numbered → t'.Numbered) ∧ t'.get? = movedTo slot e t.get? := by
  cases e with
  | inherited => exact ⟨t, rfl, id, rfl⟩
  | descriptor fd =>
      obtain ⟨h, hget⟩ := Option.isSome_iff_exists.1 (hopen fd rfl)
      by_cases heq : fd = slot
      · refine ⟨t, by simp [redirect, heq], id, funext fun n ↦ ?_⟩
        rw [movedTo, if_pos heq]
      · have hclose : ((t.set slot ⟨h.file, false⟩).get? fd).isSome := by
          rw [get?_set, if_neg heq, hget]
          rfl
        refine ⟨(t.set slot ⟨h.file, false⟩).erase fd, ?_, fun ht ↦ (ht.set slot _).erase fd,
          funext fun n ↦ ?_⟩
        · simp [redirect, heq, duplicate, hget, close, hclose, bind, Except.bind]
        · rw [get?_erase, get?_set, movedTo, if_neg heq, hget, Option.map_some]

theorem isSome_movedTo (hopen : ∀ fd, e = .descriptor fd → (under fd).isSome)
    (hne : e ≠ .descriptor n) (hn : (under n).isSome) : (movedTo slot e under n).isSome := by
  cases e with
  | inherited => exact hn
  | descriptor fd =>
      have hfd : n ≠ fd := fun heq ↦ hne (heq ▸ rfl)
      rw [movedTo]
      split
      · exact hn
      · split
        · rw [Option.isSome_map]
          exact hopen fd rfl
        · exact hn

/-- What is there afterwards was there before, under the same number or the endpoint's. -/
theorem exists_of_movedTo {h' : Holding} (hmoved : movedTo slot e under n = some h') :
    ∃ m h, under m = some h ∧ h.file = h'.file ∧ (m = n ∨ e = .descriptor m) := by
  cases e with
  | inherited => exact ⟨n, h', hmoved, rfl, .inl rfl⟩
  | descriptor fd =>
      unfold movedTo at hmoved
      dsimp only at hmoved
      split_ifs at hmoved
      · exact ⟨n, h', hmoved, rfl, .inl rfl⟩
      · obtain ⟨h, hunder, rfl⟩ := Option.map_eq_some_iff.1 hmoved
        exact ⟨fd, h, hunder, rfl, .inr rfl⟩
      · exact ⟨n, h', hmoved, rfl, .inl rfl⟩

theorem movedTo_of_ne (hslot : n ≠ slot) (he : e ≠ .descriptor n) :
    movedTo slot e under n = under n := by
  cases e with
  | inherited => rfl
  | descriptor fd =>
      have hne : n ≠ fd := fun heq ↦ he (heq ▸ rfl)
      simp [movedTo, hne, hslot]

theorem movedTo_taken (hslot : n ≠ slot) : movedTo slot (.descriptor n) under n = none := by
  simp [movedTo, hslot]

theorem movedTo_slot (hslot : n ≠ slot) :
    movedTo slot (.descriptor n) under slot = (under n).map fun h ↦ ⟨h.file, false⟩ := by
  simp [movedTo, hslot, Ne.symm hslot]

theorem movedTo_self : movedTo slot (.descriptor slot) under = under := by
  funext n
  simp [movedTo]

end Table

/-- The numbers of the descriptors that are prepared for a stage. -/
def StageEnds.descriptors (ends : StageEnds) : List Descriptor :=
  ends.input.fd?.toList ++ ends.output.fd?.toList ++ ends.stray.toList

theorem StageEnds.mem_descriptors_iff (ends : StageEnds) {fd : Descriptor} :
    fd ∈ ends.descriptors ↔
      ends.input = .descriptor fd ∨ ends.output = .descriptor fd ∨ ends.stray = some fd := by
  simp only [descriptors, List.mem_append, Option.mem_toList,
    Endpoint.fd?_eq_some, or_assoc]

/-- A table in which the descriptors of a stage are open under numbers of their own, to be
given up with the program.  The file of the stray one is held under no other number, and the
standard streams are passed on unless their numbers are those of such descriptors. -/
structure Table.Prepared (t : Table) (ends : StageEnds) : Prop where
  numbered : t.Numbered
  apart : ends.descriptors.Nodup
  opened : ∀ fd ∈ ends.descriptors, ∃ file, t.get? fd = some ⟨file, true⟩
  stray : ∀ fd, ends.stray = some fd → ∀ fd' h h', t.get? fd = some h → t.get? fd' = some h' →
    h'.file = h.file → fd' = fd
  passedOn : ∀ slot, slot = 0 ∨ slot = 1 → slot ∉ ends.descriptors → ∀ h,
    t.get? slot = some h → h.closeOnExec = false

/-- What a stage is to have under the number of a standard stream: the file of its endpoint,
or what was there before. -/
def Table.Serves (t t' : Table) (slot : Descriptor) : Endpoint → Prop
  | .inherited => t'.get? slot = t.get? slot
  | .descriptor fd => (t'.get? slot).map Holding.file = (t.get? fd).map Holding.file

/-- The table with which a stage is to go on as its program. -/
structure Table.Provides (t : Table) (ends : StageEnds) (t' : Table) : Prop where
  input : t.Serves t' 0 ends.input
  output : t.Serves t' 1 ends.output
  stray : ∀ fd h, ends.stray = some fd → t.get? fd = some h →
    ∀ fd' h', t'.get? fd' = some h' → h'.file ≠ h.file

/-- None of the descriptors has the number of a standard stream, but for an input that makes
room for the output. -/
structure StageEnds.ClearOfSlots (ends : StageEnds) : Prop where
  input : ends.input ≠ .descriptor 0
  inputAtOne : ends.input = .descriptor 1 → ends.output ≠ .inherited
  output : ends.output ≠ .descriptor 0 ∧ ends.output ≠ .descriptor 1
  stray : ends.stray ≠ some 0 ∧ ends.stray ≠ some 1

namespace Table

variable {t : Table} {ends : StageEnds}

/-- What is under a number when a stage has been rewired and has gone on as its program. -/
def afterwards (t : Table) (ends : StageEnds) (n : Descriptor) : Option Holding :=
  if ends.stray = some n then none
  else (movedTo 1 ends.output (movedTo 0 ends.input t.get?) n).filter (!·.closeOnExec)

/-- The input is moved first; that leaves the output open, be it under the number of the
standard input. -/
theorem exists_redirects (hinput : ∀ fd, ends.input = .descriptor fd → (t.get? fd).isSome)
    (houtput : ∀ fd, ends.output = .descriptor fd → (t.get? fd).isSome)
    (hapart : ∀ fd, ends.input = .descriptor fd → ends.output ≠ .descriptor fd) :
    ∃ t₁ t₂, t.redirect ends.input 0 = .ok t₁ ∧ t₁.redirect ends.output 1 = .ok t₂ ∧
      (t.Numbered → t₂.Numbered) ∧
      t₂.get? = movedTo 1 ends.output (movedTo 0 ends.input t.get?) := by
  obtain ⟨t₁, hfirst, hnumbered₁, hget₁⟩ := exists_redirect_get? hinput 0
  have hopen : ∀ fd, ends.output = .descriptor fd → (t₁.get? fd).isSome := by
    intro fd hfd
    have hne : ends.input ≠ .descriptor fd := fun heq ↦ hapart fd heq hfd
    rw [hget₁]
    exact isSome_movedTo hinput hne (houtput fd hfd)
  obtain ⟨t₂, hsecond, hnumbered₂, hget₂⟩ := exists_redirect_get? hopen 1
  rw [hget₁] at hget₂
  exact ⟨t₁, t₂, hfirst, hsecond, fun ht ↦ hnumbered₂ (hnumbered₁ ht), hget₂⟩

/-- Rewiring goes through when what a stage is to get is open under two numbers. -/
theorem exists_rewire_of_open (hinput : ∀ fd, ends.input = .descriptor fd → (t.get? fd).isSome)
    (houtput : ∀ fd, ends.output = .descriptor fd → (t.get? fd).isSome)
    (hapart : ∀ fd, ends.input = .descriptor fd → ends.output ≠ .descriptor fd) :
    ∃ t', rewire ends t = .ok t' := by
  obtain ⟨t₁, t₂, hfirst, hsecond, -⟩ := exists_redirects hinput houtput hapart
  cases hstray : ends.stray with
  | none =>
      exact ⟨t₂, by simp [rewire, hfirst, hsecond, hstray, bind, Except.bind, pure, Except.pure]⟩
  | some fd =>
      exact ⟨t₂.erase fd,
        by simp [rewire, hfirst, hsecond, hstray, bind, Except.bind, pure, Except.pure]⟩

theorem Prepared.exists_get? (h : t.Prepared ends) {fd : Descriptor}
    (hfd : ends.input = .descriptor fd ∨ ends.output = .descriptor fd ∨ ends.stray = some fd) :
    ∃ file, t.get? fd = some ⟨file, true⟩ :=
  h.opened fd (ends.mem_descriptors_iff.2 hfd)

theorem Prepared.input_ne_output (h : t.Prepared ends) {fd : Descriptor}
    (hinput : ends.input = .descriptor fd) : ends.output ≠ .descriptor fd := by
  intro houtput
  have hapart := h.apart
  simp [StageEnds.descriptors, hinput, houtput, Endpoint.fd?] at hapart

theorem Prepared.input_ne_stray (h : t.Prepared ends) {fd : Descriptor}
    (hinput : ends.input = .descriptor fd) : ends.stray ≠ some fd := by
  intro hstray
  have hapart := h.apart
  simp [StageEnds.descriptors, hinput, hstray, Endpoint.fd?] at hapart

theorem Prepared.output_ne_stray (h : t.Prepared ends) {fd : Descriptor}
    (houtput : ends.output = .descriptor fd) : ends.stray ≠ some fd := by
  intro hstray
  have hapart := h.apart
  simp [StageEnds.descriptors, houtput, hstray, Endpoint.fd?, List.nodup_append] at hapart

theorem Prepared.isSome_input (h : t.Prepared ends) {fd : Descriptor}
    (hinput : ends.input = .descriptor fd) : (t.get? fd).isSome := by
  obtain ⟨file, hget⟩ := h.exists_get? (.inl hinput)
  rw [hget]
  rfl

theorem Prepared.isSome_output (h : t.Prepared ends) {fd : Descriptor}
    (houtput : ends.output = .descriptor fd) : (t.get? fd).isSome := by
  obtain ⟨file, hget⟩ := h.exists_get? (.inr (.inl houtput))
  rw [hget]
  rfl

theorem Prepared.exists_rewire (h : t.Prepared ends) :
    ∃ t', rewire ends t = .ok t' ∧ t'.afterExec.get? = t.afterwards ends := by
  obtain ⟨t₁, t₂, hfirst, hsecond, hnumbered, hget₂⟩ :=
    exists_redirects (fun fd ↦ h.isSome_input) (fun fd ↦ h.isSome_output) fun fd ↦ h.input_ne_output
  have hnumbered₂ := hnumbered h.numbered
  cases hstray : ends.stray with
  | none =>
      refine ⟨t₂, ?_, funext fun n ↦ ?_⟩
      · simp [rewire, hfirst, hsecond, hstray, bind, Except.bind, pure, Except.pure]
      · rw [hnumbered₂.get?_afterExec, hget₂, afterwards, hstray]
        rfl
  | some fd =>
      refine ⟨t₂.erase fd, ?_, funext fun n ↦ ?_⟩
      · simp [rewire, hfirst, hsecond, hstray, bind, Except.bind, pure, Except.pure]
      · rw [(hnumbered₂.erase fd).get?_afterExec, get?_erase, hget₂, afterwards, hstray]
        by_cases heq : n = fd
        · rw [if_pos heq, if_pos (heq ▸ rfl)]
          rfl
        · rw [if_neg heq, if_neg fun hfd ↦ heq (Option.some.inj hfd).symm]

/-! ## Slots that are lost -/

theorem afterwards_stray {n : Descriptor} (hstray : ends.stray = some n) :
    t.afterwards ends n = none :=
  if_pos hstray

theorem filter_of_marked {under : Option Holding} {file : FileId}
    (hunder : under = some ⟨file, true⟩) : under.filter (!·.closeOnExec) = none := by
  rw [hunder]
  rfl

/-- An input that has the number already stays marked and is given up with the old program. -/
theorem Prepared.afterwards_input (h : t.Prepared ends) (hinput : ends.input = .descriptor 0) :
    t.afterwards ends 0 = none := by
  obtain ⟨file, hget⟩ := h.exists_get? (.inl hinput)
  have hne : ends.output ≠ .descriptor 0 := h.input_ne_output hinput
  rw [afterwards, if_neg (h.input_ne_stray hinput), hinput, movedTo_self,
    movedTo_of_ne (by decide) hne]
  exact filter_of_marked hget

/-- So does an output. -/
theorem Prepared.afterwards_output (h : t.Prepared ends)
    (houtput : ends.output = .descriptor 1) : t.afterwards ends 1 = none := by
  obtain ⟨file, hget⟩ := h.exists_get? (.inr (.inl houtput))
  have hne : ends.input ≠ .descriptor 1 := fun hinput ↦ h.input_ne_output hinput houtput
  rw [afterwards, if_neg (h.output_ne_stray houtput), houtput, movedTo_self,
    movedTo_of_ne (by decide) hne]
  exact filter_of_marked hget

/-- An output that has the number of the input is moved away, and with it what was put there. -/
theorem afterwards_output_zero (houtput : ends.output = .descriptor 0) :
    t.afterwards ends 0 = none := by
  rw [afterwards, houtput, movedTo_taken (by decide)]
  exact ite_self none

/-- An input that has the number of the output is moved away, and nothing takes its place. -/
theorem afterwards_input_one (hinput : ends.input = .descriptor 1)
    (houtput : ends.output = .inherited) : t.afterwards ends 1 = none := by
  rw [afterwards, houtput, hinput, movedTo, movedTo_taken (by decide)]
  exact ite_self none

theorem Serves.isSome {t' : Table} {slot : Descriptor} {e : Endpoint} (h : t.Serves t' slot e)
    (hopen : ∀ fd, e = .descriptor fd → (t.get? fd).isSome) (hslot : (t.get? slot).isSome) :
    (t'.get? slot).isSome := by
  cases e with
  | inherited =>
      have heq : t'.get? slot = t.get? slot := h
      rw [heq]
      exact hslot
  | descriptor fd =>
      have heq : (t'.get? slot).map Holding.file = (t.get? fd).map Holding.file := h
      rw [← Option.isSome_map, heq, Option.isSome_map]
      exact hopen fd rfl

/-- A slot in which a descriptor of the stage stands is lost, so nothing serves it. -/
theorem Prepared.clearOfSlots (h : t.Prepared ends) {t' : Table}
    (hget : t'.get? = t.afterwards ends) (hprovides : t.Provides ends t') :
    ends.ClearOfSlots := by
  have hopen {fd : Descriptor} (hfd : ends.input = .descriptor fd ∨
      ends.output = .descriptor fd ∨ ends.stray = some fd) : (t.get? fd).isSome := by
    obtain ⟨file, hfile⟩ := h.exists_get? hfd
    rw [hfile]
    rfl
  -- What stood under one of the two numbers has to be followed by something there.
  have hzero (hslot : (t.get? 0).isSome) : t.afterwards ends 0 ≠ none := by
    rw [← Option.isSome_iff_ne_none, ← hget]
    exact hprovides.input.isSome (fun fd hfd ↦ hopen (.inl hfd)) hslot
  have hone (hslot : (t.get? 1).isSome) : t.afterwards ends 1 ≠ none := by
    rw [← Option.isSome_iff_ne_none, ← hget]
    exact hprovides.output.isSome (fun fd hfd ↦ hopen (.inr (.inl hfd))) hslot
  refine ⟨fun hinput ↦ ?_, fun hinput houtput ↦ ?_, ⟨fun houtput ↦ ?_, fun houtput ↦ ?_⟩,
    fun hstray ↦ ?_, fun hstray ↦ ?_⟩
  · exact hzero (hopen (.inl hinput)) (h.afterwards_input hinput)
  · exact hone (hopen (.inl hinput)) (afterwards_input_one hinput houtput)
  · exact hzero (hopen (.inr (.inl houtput))) (afterwards_output_zero houtput)
  · exact hone (hopen (.inr (.inl houtput))) (h.afterwards_output houtput)
  · exact hzero (hopen (.inr (.inr hstray))) (afterwards_stray hstray)
  · exact hone (hopen (.inr (.inr hstray))) (afterwards_stray hstray)

/-! ## Slots that are served -/

/-- What the next program holds was held before, under the same number or under that of an
endpoint. -/
theorem exists_of_afterwards {n : Descriptor} {h' : Holding}
    (hafter : t.afterwards ends n = some h') :
    ends.stray ≠ some n ∧ ∃ m h, t.get? m = some h ∧ h.file = h'.file ∧
      (m = n ∨ ends.input = .descriptor m ∨ ends.output = .descriptor m) := by
  unfold afterwards at hafter
  split at hafter
  next => cases hafter
  next hstray =>
    obtain ⟨hmoved, -⟩ := Option.filter_eq_some_iff.1 hafter
    obtain ⟨m₁, h₁, hunder₁, hfile₁, hm₁⟩ := exists_of_movedTo hmoved
    obtain ⟨m, h, hunder, hfile, hm⟩ := exists_of_movedTo hunder₁
    refine ⟨hstray, m, h, hunder, hfile.trans hfile₁, ?_⟩
    rcases hm with rfl | hinput
    · exact hm₁.imp_right .inr
    · exact .inr (.inl hinput)

/-- The stray file is held under its own number only, and that one is given up. -/
theorem Prepared.stray_lost (h : t.Prepared ends) {fd : Descriptor} {held : Holding}
    (hstray : ends.stray = some fd) (hheld : t.get? fd = some held) {n : Descriptor}
    {h' : Holding} (hafter : t.afterwards ends n = some h') : h'.file ≠ held.file := by
  intro heq
  obtain ⟨hne, m, hm, hget, hfile, hcases⟩ := exists_of_afterwards hafter
  obtain rfl : m = fd := h.stray fd hstray m held hm hheld hget (hfile.trans heq)
  rcases hcases with rfl | hinput | houtput
  · exact hne hstray
  · exact h.input_ne_stray hinput hstray
  · exact h.output_ne_stray houtput hstray

/-- A standard stream of the shell that is in nobody's way is passed on. -/
theorem Prepared.filter_get? (h : t.Prepared ends) {slot : Descriptor}
    (hslot : slot = 0 ∨ slot = 1) (hapart : slot ∉ ends.descriptors) :
    (t.get? slot).filter (!·.closeOnExec) = t.get? slot := by
  cases hget : t.get? slot with
  | none => rfl
  | some held =>
      have hkept := h.passedOn slot hslot hapart held hget
      exact Option.filter_some_pos (by simpa using hkept)

theorem Prepared.serves_input (h : t.Prepared ends) (hclear : ends.ClearOfSlots) {t' : Table}
    (hget : t'.get? = t.afterwards ends) : t.Serves t' 0 ends.input := by
  have hleft : t'.get? 0 = (movedTo 0 ends.input t.get? 0).filter (!·.closeOnExec) := by
    rw [hget, afterwards, if_neg hclear.stray.1, movedTo_of_ne (by decide) hclear.output.1]
  cases hinput : ends.input with
  | inherited =>
      have hapart : 0 ∉ ends.descriptors := by
        rw [ends.mem_descriptors_iff]
        exact not_or.2 ⟨hclear.input, not_or.2 ⟨hclear.output.1, hclear.stray.1⟩⟩
      rw [hinput] at hleft
      exact hleft.trans (h.filter_get? (.inl rfl) hapart)
  | descriptor i =>
      obtain ⟨file, hfile⟩ := h.exists_get? (.inl hinput)
      have hne : i ≠ 0 := fun heq ↦ hclear.input (heq ▸ hinput)
      rw [hinput, movedTo_slot hne, hfile] at hleft
      rw [Serves, hleft, hfile]
      rfl

theorem Prepared.serves_output (h : t.Prepared ends) (hclear : ends.ClearOfSlots) {t' : Table}
    (hget : t'.get? = t.afterwards ends) : t.Serves t' 1 ends.output := by
  have hleft : t'.get? 1 =
      (movedTo 1 ends.output (movedTo 0 ends.input t.get?) 1).filter (!·.closeOnExec) := by
    rw [hget, afterwards, if_neg hclear.stray.2]
  cases houtput : ends.output with
  | inherited =>
      have hinput : ends.input ≠ .descriptor 1 := fun hinput ↦ hclear.inputAtOne hinput houtput
      have hapart : 1 ∉ ends.descriptors := by
        rw [ends.mem_descriptors_iff]
        exact not_or.2 ⟨hinput, not_or.2 ⟨hclear.output.2, hclear.stray.2⟩⟩
      rw [houtput, movedTo, movedTo_of_ne (by decide) hinput] at hleft
      exact hleft.trans (h.filter_get? (.inr rfl) hapart)
  | descriptor o =>
      obtain ⟨file, hfile⟩ := h.exists_get? (.inr (.inl houtput))
      have hzero : o ≠ 0 := fun heq ↦ hclear.output.1 (heq ▸ houtput)
      have hone : o ≠ 1 := fun heq ↦ hclear.output.2 (heq ▸ houtput)
      have hinput : ends.input ≠ .descriptor o := fun hinput ↦ h.input_ne_output hinput houtput
      rw [houtput, movedTo_slot hone, movedTo_of_ne hzero hinput, hfile] at hleft
      rw [Serves, hleft, hfile]
      rfl

/-- With what is prepared for it a stage is always rewired.  It gets its streams, and nothing
of the stray file, exactly if its descriptors are clear of the standard slots. -/
theorem rewire_provides_iff (h : t.Prepared ends) :
    ∃ t', rewire ends t = .ok t' ∧ (t.Provides ends t'.afterExec ↔ ends.ClearOfSlots) := by
  obtain ⟨t', hrewire, hget⟩ := h.exists_rewire
  refine ⟨t', hrewire, h.clearOfSlots hget, fun hclear ↦ ?_⟩
  refine ⟨h.serves_input hclear hget, h.serves_output hclear hget, ?_⟩
  intro fd held hstray hheld n h' hafter
  exact h.stray_lost hstray hheld (hget ▸ hafter)

/-- The input has the number 1 and makes room there for the output; the read end that the
shell keeps is given up. -/
theorem rewire_provides_iff_input_at_one :
    let t : Table :=
      ⟨[(0, ⟨0, false⟩), (1, ⟨5, true⟩), (2, ⟨2, false⟩), (3, ⟨6, true⟩), (4, ⟨7, true⟩)]⟩
    let ends : StageEnds := ⟨.descriptor 1, .descriptor 4, some 3⟩
    t.Prepared ends ∧ ∃ t', rewire ends t = .ok t' ∧ t.Provides ends t'.afterExec := by
  intro t ends
  have hprepared : t.Prepared ends := by
    refine ⟨by simp [Numbered, t], by decide, fun fd hfd ↦ ?_, ?_, ?_⟩
    · obtain rfl | rfl | rfl : fd = 1 ∨ fd = 4 ∨ fd = 3 := by
        simpa [StageEnds.descriptors, Endpoint.fd?, ends] using hfd
      · exact ⟨5, rfl⟩
      · exact ⟨7, rfl⟩
      · exact ⟨6, rfl⟩
    · rintro _ ⟨⟩ fd h h' hstray hget hfile
      obtain rfl : ⟨6, true⟩ = h := Option.some.inj hstray
      have hmem := mem_of_get? hget
      simp only [t, List.mem_cons, List.not_mem_nil, or_false, Prod.mk.injEq] at hmem
      rcases hmem with ⟨rfl, rfl⟩ | ⟨rfl, rfl⟩ | ⟨rfl, rfl⟩ | ⟨rfl, rfl⟩ | ⟨rfl, rfl⟩
      all_goals first | rfl | cases hfile
    · rintro slot (rfl | rfl) hapart h hget
      · exact Option.some.inj hget ▸ rfl
      · exact (hapart (by decide)).elim
  obtain ⟨t', hrewire, hprovides⟩ := rewire_provides_iff hprepared
  exact ⟨hprepared, t', hrewire, hprovides.2 ⟨by decide, by decide, by decide, by decide⟩⟩

/-- The shell was started without a standard input, so the file of an input redirection got the
number 0.  It is left there as it is, and the stage's program finds nothing under that number. -/
theorem not_rewire_provides :
    let t : Table := ⟨[(0, ⟨3, true⟩), (1, ⟨1, false⟩), (2, ⟨2, false⟩)]⟩
    let ends : StageEnds := ⟨.descriptor 0, .inherited, none⟩
    t.Prepared ends ∧ rewire ends t = .ok t ∧ t.afterExec.get? 0 = none ∧
      ¬ t.Provides ends t.afterExec := by
  intro t ends
  have hempty : t.afterExec.get? 0 = none := by decide
  refine ⟨⟨by simp [Numbered, t], by decide, fun fd hfd ↦ ?_, nofun, ?_⟩, by decide, hempty,
    fun hprovides ↦ ?_⟩
  · obtain rfl : fd = 0 := by
      simpa [StageEnds.descriptors, Endpoint.fd?, ends] using hfd
    exact ⟨3, rfl⟩
  · rintro slot (rfl | rfl) hapart h hget
    · exact (hapart (by decide)).elim
    · exact Option.some.inj hget ▸ rfl
  · have hinput : (t.afterExec.get? 0).map Holding.file = (t.get? 0).map Holding.file :=
      hprovides.input
    rw [hempty] at hinput
    cases hinput

end Table

end PipeShell
