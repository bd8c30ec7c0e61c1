import PipeShell.Proofs.PipeEnds

/-!
# Complaints

A process that cannot become its program says why, in parts, and ends with the code 127.
If nobody can read what it says, the first part ends it with the signal of a broken pipe,
unless it ignores that.  Otherwise it comes to its end at once, or it waits for room with
the rest.
-/

namespace PipeShell

namespace Machine

/-- Nobody can read what is written under a descriptor: it leads into a pipe of which nobody
has the read end. -/
def Unread (m : Machine) (shell t : Table) (fd : Descriptor) : Prop :=
  ∃ pipe, m.fileAt? t fd = some (.pipe pipe .writer) ∧ m.held shell pipe .reader = false

variable {m m' : Machine} {shell t : Table} {fd : Descriptor}

theorem fileAt?_of_get? {x : Holding} (h : t.get? fd = some x) :
    m.fileAt? t fd = m.opened[x.file]? := by
  rw [fileAt?, h]
  rfl

theorem fileAt?_eq_pipe_iff {pipe : PipeId} {side : PipeEnd} :
    m.fileAt? t fd = some (.pipe pipe side) ↔
      ∃ h, t.get? fd = some h ∧ m.isEnd pipe side h.file = true := by
  simp only [fileAt?, Option.bind_eq_some_iff, isEnd_eq_true_iff]

theorem SameFiles.fileAt?_eq_pipe_iff (h : m.SameFiles m') {pipe : PipeId} {side : PipeEnd} :
    m'.fileAt? t fd = some (.pipe pipe side) ↔ m.fileAt? t fd = some (.pipe pipe side) := by
  simp only [Machine.fileAt?_eq_pipe_iff, h.isEnd]

/-- Where no process is added and the ends of pipes stay what they are, the same can be
read. -/
theorem SameFiles.unread_iff (h : m.SameFiles m') (shell t : Table) (fd : Descriptor) :
    m'.Unread shell t fd ↔ m.Unread shell t fd := by
  simp only [Unread, h.fileAt?_eq_pipe_iff, h.held_eq]

/-- Only a write that nobody can read breaks. -/
theorem unread_of_broken {bytes : Bytes} (h : (m.write shell t fd bytes).1 = .broken) :
    m.Unread shell t fd := by
  unfold write at h
  split at h
  next x hget =>
    unfold writeFile at h
    split at h
    next =>
      split at h
      · cases h
      · split at h
        · cases h
        · dsimp only at h
          split at h <;> cases h
        · cases h
    next pipe hopened =>
      split at h
      next hheld => exact ⟨pipe, (fileAt?_of_get? hget).trans hopened, by simpa using hheld⟩
      next =>
        split at h
        · dsimp only at h
          split at h <;> cases h
        · cases h
    next => cases h
  next => cases h

/-! ## What becomes of the process -/

variable {p : Process}

/-- A process that is heard, or does not mind, comes to its end or waits for room. -/
theorem say_of_heard (m : Machine) (shell : Table)
    (h : p.disposition Signal.brokenPipe = .ignore ∨ ¬ m.Unread shell p.table 2)
    (parts : List Bytes) :
    (m.say shell p parts).1 = p.finished (.exited 127) ∨
      ∃ rest, rest ≠ [] ∧ (m.say shell p parts).1 = { p with program := .saying rest } := by
  induction parts generalizing m with
  | nil => exact .inl rfl
  | cons part rest ih =>
      -- Writing leaves the ends of pipes alone, so the rest is heard as the first part is.
      have hfiles := m.sameFiles_write shell p.table 2 part
      have hbehind := ih (m.write shell p.table 2 part).2
        (h.imp_right (mt (hfiles.unread_iff shell p.table 2).1))
      unfold say
      split
      next count m' hreply =>
        rw [hreply] at hbehind
        split
        · exact .inr ⟨_, List.cons_ne_nil _ _, rfl⟩
        · exact hbehind
      next m' hreply => exact .inr ⟨_, List.cons_ne_nil _ _, rfl⟩
      next m' hreply =>
        have hunread : m.Unread shell p.table 2 := unread_of_broken (congrArg Prod.fst hreply)
        rw [hreply] at hbehind
        rw [if_pos (h.resolve_right (not_not_intro hunread))]
        exact hbehind
      next e m' hreply =>
        rw [hreply] at hbehind
        exact hbehind

/-- What is written to a file, or under a free number, is written in full or refused. -/
theorem write_of_file (hfile : ∀ pipe, m.fileAt? t fd ≠ some (.pipe pipe .writer))
    (shell : Table) (bytes : Bytes) :
    (m.write shell t fd bytes).1 = .wrote bytes.length ∨
      ∃ e, (m.write shell t fd bytes).1 = .failed e := by
  unfold write
  split
  next x hget =>
    rw [fileAt?_of_get? hget] at hfile
    unfold writeFile
    split
    next =>
      split
      · exact .inr ⟨_, rfl⟩
      · split
        · exact .inl rfl
        · split
          next hempty =>
            rw [List.isEmpty_iff] at hempty
            rw [hempty]
            exact .inl rfl
          next => exact .inr ⟨_, rfl⟩
        · exact .inl rfl
    next pipe hpipe => exact absurd hpipe (hfile pipe)
    next => exact .inr ⟨_, rfl⟩
  next => exact .inr ⟨_, rfl⟩

/-- A process whose standard error is no pipe comes to its end at once. -/
theorem say_of_file (hfile : ∀ pipe, m.fileAt? p.table 2 ≠ some (.pipe pipe .writer))
    (parts : List Bytes) : (m.say shell p parts).1 = p.finished (.exited 127) := by
  induction parts generalizing m with
  | nil => rfl
  | cons part rest ih =>
      have hfiles := m.sameFiles_write shell p.table 2 part
      have hbehind := ih (m := (m.write shell p.table 2 part).2) fun pipe ↦ by
        rw [Ne, hfiles.fileAt?_eq_pipe_iff]
        exact hfile pipe
      unfold say
      rcases write_of_file hfile shell part with hreply | ⟨e, hreply⟩
      · rw [← Prod.eta (m.write shell p.table 2 part), hreply]
        dsimp only
        rw [if_neg (Nat.lt_irrefl _)]
        exact hbehind
      · rw [← Prod.eta (m.write shell p.table 2 part), hreply]
        exact hbehind

/-- A process that nobody can hear is ended by its first words. -/
theorem say_of_unread (hdisposition : p.disposition Signal.brokenPipe ≠ .ignore)
    (h : m.Unread shell p.table 2) {parts : List Bytes} (hparts : parts ≠ []) :
    (m.say shell p parts).1 = p.finished (.signalled Signal.brokenPipe) := by
  cases parts with
  | nil => exact absurd rfl hparts
  | cons part rest =>
      obtain ⟨pipe, hfile, hheld⟩ := h
      have hbroken := write_broken part hfile hheld
      unfold say
      split
      next hreply => exact nomatch (congrArg Prod.fst hreply).symm.trans hbroken
      next hreply => exact nomatch (congrArg Prod.fst hreply).symm.trans hbroken
      next m' hreply => rw [if_neg hdisposition]
      next hreply => exact nomatch (congrArg Prod.fst hreply).symm.trans hbroken

end Machine

end PipeShell
