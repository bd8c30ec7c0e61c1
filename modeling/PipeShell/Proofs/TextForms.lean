import Mathlib
import PipeShell.Text.Utf8

/-!
# Bytes that are the form of a text

The decoder reads one byte at a time and never looks back.  Here it is held against the form
that a text has as bytes: it takes the form of every text back to that text, and what it takes
to a text is the form of it.  So an overlong form, a surrogate and a sequence cut short are
turned down because they are the form of nothing.
-/

namespace PipeShell

open String (utf8EncodeChar)

theorem toList_loop_byteArray (bytes : ByteArray) (i : Nat) (read : List UInt8) :
    ByteArray.toList.loop bytes i read = read.reverse ++ bytes.data.toList.drop i := by
  fun_induction ByteArray.toList.loop bytes i read with
  | case1 i read hi ih =>
      have hlength : i < bytes.data.toList.length := by simpa using hi
      have hget : bytes.get! i = bytes.data.toList[i] := by
        simp [ByteArray.get!, hi]
      rw [ih, List.drop_eq_getElem_cons hlength, hget]
      simp
  | case2 i read hi =>
      rw [List.drop_eq_nil_of_le (by simpa using Nat.le_of_not_lt hi), List.append_nil]

/-- The form of a text is that of its characters, one after another. -/
theorem encode_eq_flatMap (text : String) : encode text = text.toList.flatMap utf8EncodeChar := by
  obtain ⟨chars, rfl⟩ := text.exists_eq_ofList
  rw [encode, ByteArray.toList, toList_loop_byteArray]
  simp [List.utf8Encode]

theorem encode_push (text : String) (c : Char) :
    encode (text.push c) = encode text ++ utf8EncodeChar c := by
  simp [encode_eq_flatMap]

/-! ## The form of a character -/

section Forms

variable {c : Char}

theorem utf8EncodeChar_one (h : c.toNat < 0x80) : utf8EncodeChar c = [UInt8.ofNat c.toNat] := by
  have hle : c.val.toNat ≤ 0x7F := by
    change c.toNat ≤ 0x7F
    omega
  simp only [utf8EncodeChar, if_pos hle]
  rfl

theorem utf8EncodeChar_two (h : 0x80 ≤ c.toNat) (h' : c.toNat < 0x800) :
    utf8EncodeChar c =
      [UInt8.ofNat (c.toNat / 64 + 0xC0), UInt8.ofNat (c.toNat % 64 + 0x80)] := by
  change 0x80 ≤ c.val.toNat at h
  change c.val.toNat < 0x800 at h'
  have hlead : c.val.toNat / 64 % 0x20 = c.val.toNat / 64 := by omega
  simp only [utf8EncodeChar, if_neg (show ¬ c.val.toNat ≤ 0x7F by omega),
    if_pos (show c.val.toNat ≤ 0x7FF by omega), hlead]
  rfl

theorem utf8EncodeChar_three (h : 0x800 ≤ c.toNat) (h' : c.toNat < 0x10000) :
    utf8EncodeChar c = [UInt8.ofNat (c.toNat / 4096 + 0xE0),
      UInt8.ofNat (c.toNat / 64 % 64 + 0x80), UInt8.ofNat (c.toNat % 64 + 0x80)] := by
  change 0x800 ≤ c.val.toNat at h
  change c.val.toNat < 0x10000 at h'
  have hlead : c.val.toNat / 4096 % 0x10 = c.val.toNat / 4096 := by omega
  simp only [utf8EncodeChar, if_neg (show ¬ c.val.toNat ≤ 0x7F by omega),
    if_neg (show ¬ c.val.toNat ≤ 0x7FF by omega), if_pos (show c.val.toNat ≤ 0xFFFF by omega),
    hlead]
  rfl

theorem utf8EncodeChar_four (h : 0x10000 ≤ c.toNat) (h' : c.toNat < 0x110000) :
    utf8EncodeChar c = [UInt8.ofNat (c.toNat / 262144 + 0xF0),
      UInt8.ofNat (c.toNat / 4096 % 64 + 0x80), UInt8.ofNat (c.toNat / 64 % 64 + 0x80),
      UInt8.ofNat (c.toNat % 64 + 0x80)] := by
  change 0x10000 ≤ c.val.toNat at h
  change c.val.toNat < 0x110000 at h'
  have hlead : c.val.toNat / 262144 % 8 = c.val.toNat / 262144 := by omega
  simp only [utf8EncodeChar, if_neg (show ¬ c.val.toNat ≤ 0x7F by omega),
    if_neg (show ¬ c.val.toNat ≤ 0x7FF by omega), if_neg (show ¬ c.val.toNat ≤ 0xFFFF by omega),
    hlead]
  rfl

theorem toNat_lt_cases (c : Char) :
    c.toNat < 0x80 ∨ (0x80 ≤ c.toNat ∧ c.toNat < 0x800) ∨
      (0x800 ≤ c.toNat ∧ c.toNat < 0x10000) ∨ (0x10000 ≤ c.toNat ∧ c.toNat < 0x110000) := by
  have hvalid : c.toNat < 0xD800 ∨ 0xDFFF < c.toNat ∧ c.toNat < 0x110000 := c.valid
  omega

end Forms

namespace Utf8

/-- The bytes that are missing from a character, with the character that they complete. -/
inductive Unfinished.Completes : Unfinished → Bytes → Char → Prop where
  | last {u : Unfinished} {b : UInt8} (hmissing : u.missing ≤ 1) (hleast : u.least ≤ b)
      (hgreatest : b ≤ u.greatest) :
      Completes u [b] (Char.ofNat (u.value * 64 + b.toNat % 64))
  | more {u : Unfinished} {b : UInt8} {tail : Bytes} {c : Char} (hmissing : ¬ u.missing ≤ 1)
      (hleast : u.least ≤ b) (hgreatest : b ≤ u.greatest)
      (htail : Completes ⟨u.value * 64 + b.toNat % 64, u.missing - 1, 0x80, 0xBF⟩ tail c) :
      Completes u (b :: tail) c

open Unfinished (Completes)

variable {a b d e : UInt8}

theorem Unfinished.Completes.exists_last {u : Unfinished} {tail : Bytes} {c : Char}
    (h : Completes u tail c) (hmissing : u.missing = 1) :
    ∃ b, tail = [b] ∧ u.least.toNat ≤ b.toNat ∧ b.toNat ≤ u.greatest.toNat ∧
      c = Char.ofNat (u.value * 64 + b.toNat % 64) := by
  cases h with
  | last _ hleast hgreatest =>
      exact ⟨_, rfl, UInt8.le_iff_toNat_le.1 hleast, UInt8.le_iff_toNat_le.1 hgreatest, rfl⟩
  | more hmore => omega

theorem Unfinished.Completes.exists_more {u : Unfinished} {tail : Bytes} {c : Char} {left : Nat}
    (h : Completes u tail c) (hmissing : u.missing = left + 2) :
    ∃ b rest, tail = b :: rest ∧ u.least.toNat ≤ b.toNat ∧ b.toNat ≤ u.greatest.toNat ∧
      Completes ⟨u.value * 64 + b.toNat % 64, left + 1, 0x80, 0xBF⟩ rest c := by
  cases h with
  | last hlast => omega
  | more _ hleast hgreatest htail =>
      rw [hmissing] at htail
      exact ⟨_, _, rfl, UInt8.le_iff_toNat_le.1 hleast, UInt8.le_iff_toNat_le.1 hgreatest, htail⟩

/-! ## What is decoded is the form of a text -/

theorem toNat_ofNat_of_lt {n : Nat} (h : n < 0xD800 ∨ 0xDFFF < n ∧ n < 0x110000) :
    (Char.ofNat n).toNat = n := by
  rw [Char.toNat_ofNat, if_pos h]

theorem ofNat_eq {n : Nat} {b : UInt8} (h : n = b.toNat) : UInt8.ofNat n = b := by
  rw [h, UInt8.ofNat_toNat]

/-- With every choice of the bytes that are missing, `front` is the front of the form of a
character. -/
def Unfinished.Begins (u : Unfinished) (front : Bytes) : Prop :=
  ∀ tail c, Completes u tail c → utf8EncodeChar c = front ++ tail

theorem form_two (ha : 0xC2 ≤ a.toNat) (ha' : a.toNat < 0xE0) (hb : 0x80 ≤ b.toNat)
    (hb' : b.toNat ≤ 0xBF) :
    utf8EncodeChar (Char.ofNat ((a.toNat - 0xC0) * 64 + b.toNat % 64)) = [a, b] := by
  have hvalue := toNat_ofNat_of_lt (n := (a.toNat - 0xC0) * 64 + b.toNat % 64) (by omega)
  rw [utf8EncodeChar_two (by omega) (by omega), hvalue]
  congr
  · exact ofNat_eq (by omega)
  · exact ofNat_eq (by omega)

theorem form_three (ha : 0xE0 ≤ a.toNat) (ha' : a.toNat < 0xF0) (hb : 0x80 ≤ b.toNat)
    (hb' : b.toNat ≤ 0xBF) (hshort : a.toNat = 0xE0 → 0xA0 ≤ b.toNat)
    (hsurrogate : a.toNat = 0xED → b.toNat ≤ 0x9F) (hd : 0x80 ≤ d.toNat) (hd' : d.toNat ≤ 0xBF) :
    utf8EncodeChar (Char.ofNat (((a.toNat - 0xE0) * 64 + b.toNat % 64) * 64 + d.toNat % 64)) =
      [a, b, d] := by
  have hvalue := toNat_ofNat_of_lt
    (n := ((a.toNat - 0xE0) * 64 + b.toNat % 64) * 64 + d.toNat % 64) (by omega)
  rw [utf8EncodeChar_three (by omega) (by omega), hvalue]
  congr
  · exact ofNat_eq (by omega)
  · exact ofNat_eq (by omega)
  · exact ofNat_eq (by omega)

theorem form_four (ha : 0xF0 ≤ a.toNat) (ha' : a.toNat ≤ 0xF4) (hb : 0x80 ≤ b.toNat)
    (hb' : b.toNat ≤ 0xBF) (hshort : a.toNat = 0xF0 → 0x90 ≤ b.toNat)
    (hlarge : a.toNat = 0xF4 → b.toNat ≤ 0x8F) (hd : 0x80 ≤ d.toNat) (hd' : d.toNat ≤ 0xBF)
    (he : 0x80 ≤ e.toNat) (he' : e.toNat ≤ 0xBF) :
    utf8EncodeChar (Char.ofNat ((((a.toNat - 0xF0) * 64 + b.toNat % 64) * 64 + d.toNat % 64) * 64 +
      e.toNat % 64)) = [a, b, d, e] := by
  have hvalue := toNat_ofNat_of_lt
    (n := (((a.toNat - 0xF0) * 64 + b.toNat % 64) * 64 + d.toNat % 64) * 64 + e.toNat % 64)
    (by omega)
  rw [utf8EncodeChar_four (by omega) (by omega), hvalue]
  congr
  · exact ofNat_eq (by omega)
  · exact ofNat_eq (by omega)
  · exact ofNat_eq (by omega)
  · exact ofNat_eq (by omega)

theorem begins_two (ha : 0xC2 ≤ a.toNat) (ha' : a.toNat < 0xE0) :
    Unfinished.Begins ⟨a.toNat - 0xC0, 1, 0x80, 0xBF⟩ [a] := by
  intro tail c h
  obtain ⟨b, rfl, hb, hb', rfl⟩ := h.exists_last rfl
  exact form_two ha ha' hb hb'

theorem begins_three {value : Nat} {least greatest : UInt8} (ha : 0xE0 ≤ a.toNat)
    (ha' : a.toNat < 0xF0) (hvalue : value = a.toNat - 0xE0) (hleast : 0x80 ≤ least.toNat)
    (hgreatest : greatest.toNat ≤ 0xBF) (hshort : a.toNat = 0xE0 → 0xA0 ≤ least.toNat)
    (hsurrogate : a.toNat = 0xED → greatest.toNat ≤ 0x9F) :
    Unfinished.Begins ⟨value, 2, least, greatest⟩ [a] := by
  intro tail c h
  obtain ⟨b, rest, rfl, hb, hb', h⟩ := h.exists_more rfl
  obtain ⟨d, rfl, hd, hd', rfl⟩ := h.exists_last rfl
  dsimp only at hb hb' ⊢
  rw [hvalue]
  exact form_three ha ha' (by omega) (by omega) (by omega) (by omega) hd hd'

theorem begins_four {value : Nat} {least greatest : UInt8} (ha : 0xF0 ≤ a.toNat)
    (ha' : a.toNat ≤ 0xF4) (hvalue : value = a.toNat - 0xF0) (hleast : 0x80 ≤ least.toNat)
    (hgreatest : greatest.toNat ≤ 0xBF) (hshort : a.toNat = 0xF0 → 0x90 ≤ least.toNat)
    (hlarge : a.toNat = 0xF4 → greatest.toNat ≤ 0x8F) :
    Unfinished.Begins ⟨value, 3, least, greatest⟩ [a] := by
  intro tail c h
  obtain ⟨b, rest, rfl, hb, hb', h⟩ := h.exists_more rfl
  obtain ⟨d, rest, rfl, hd, hd', h⟩ := h.exists_more rfl
  obtain ⟨e, rfl, he, he', rfl⟩ := h.exists_last rfl
  dsimp only at hb hb' ⊢
  rw [hvalue]
  exact form_four ha ha' (by omega) (by omega) (by omega) (by omega) hd hd' he he'

/-- What has been read is the form of the text so far and the front of a character. -/
def State.Reads (bytes : Bytes) : State → Prop
  | .between text => encode text = bytes
  | .inside text u => ∃ front, encode text ++ front = bytes ∧ u.Begins front
  | .broken => True

theorem State.Reads.ite {bytes : Bytes} {p : Prop} [Decidable p] {s t : State}
    (hs : p → s.Reads bytes) (ht : ¬ p → t.Reads bytes) : (if p then s else t).Reads bytes := by
  split
  next h => exact hs h
  next h => exact ht h

/-- Each case of a first byte is a row of the table of well-formed sequences. -/
theorem State.reads_lead (text : String) (b : UInt8) :
    (lead text b).Reads (encode text ++ [b]) := by
  have hinside {u : Unfinished} (h : u.Begins [b]) :
      State.Reads (encode text ++ [b]) (.inside text u) := ⟨[b], rfl, h⟩
  unfold lead
  simp only [UInt8.lt_iff_toNat_lt, beq_iff_eq, ← UInt8.toNat_inj, UInt8.reduceToNat]
  refine .ite (fun hascii ↦ ?_) fun _ ↦ .ite (fun _ ↦ trivial) fun htwo ↦
    .ite (fun htwo' ↦ hinside (begins_two (by omega) htwo')) fun hthree ↦
    .ite (fun hE0 ↦ hinside ?_) fun hE0 ↦ .ite (fun hED ↦ hinside ?_) fun hED ↦
    .ite (fun hthree' ↦ hinside ?_) fun hfour ↦ .ite (fun hF0 ↦ hinside ?_) fun hF0 ↦
    .ite (fun hfour' ↦ hinside ?_) fun hlast ↦ .ite (fun hF4 ↦ hinside ?_) fun _ ↦ trivial
  · have hvalue := toNat_ofNat_of_lt (n := b.toNat) (by omega)
    change encode (text.push _) = _
    rw [encode_push, utf8EncodeChar_one (by omega), hvalue, UInt8.ofNat_toNat]
  · exact begins_three (by omega) (by omega) (by omega) (by decide) (by decide)
      (fun _ ↦ by decide) (by omega)
  · exact begins_three (by omega) (by omega) (by omega) (by decide) (by decide) (by omega)
      (fun _ ↦ by decide)
  · exact begins_three (by omega) (by omega) rfl (by decide) (by decide) (by omega) (by omega)
  · exact begins_four (by omega) (by omega) (by omega) (by decide) (by decide)
      (fun _ ↦ by decide) (by omega)
  · exact begins_four (by omega) (by omega) rfl (by decide) (by decide) (by omega) (by omega)
  · exact begins_four (by omega) (by omega) (by omega) (by decide) (by decide) (by omega)
      (fun _ ↦ by decide)

theorem State.reads_step {s : State} {bytes : Bytes} (h : s.Reads bytes) (b : UInt8) :
    (s.step b).Reads (bytes ++ [b]) := by
  cases s with
  | between text =>
      obtain rfl : encode text = bytes := h
      exact reads_lead text b
  | inside text u =>
      obtain ⟨front, rfl, hbegins⟩ := h
      unfold step follow
      refine .ite (fun hrange ↦ ?_) fun _ ↦ trivial
      obtain ⟨hleast, hgreatest⟩ : u.least ≤ b ∧ b ≤ u.greatest := by simpa using hrange
      refine .ite (fun hlast ↦ ?_) fun hmore ↦ ⟨front ++ [b], ?_, fun tail c htail ↦ ?_⟩
      · have hform := hbegins [b] _ (.last hlast hleast hgreatest)
        change encode (text.push _) = _
        rw [encode_push, hform, List.append_assoc]
      · rw [List.append_assoc]
      · have hform := hbegins (b :: tail) c (.more hmore hleast hgreatest htail)
        rw [hform, List.append_assoc, List.singleton_append]
  | broken => trivial

theorem reads_foldl_step {s : State} {front : Bytes} (h : s.Reads front) (bytes : Bytes) :
    (bytes.foldl State.step s).Reads (front ++ bytes) := by
  induction bytes generalizing s front with
  | nil => simpa using h
  | cons b bytes ih => simpa using ih (State.reads_step h b)

theorem encode_of_decode? {bytes : Bytes} {text : String} (h : decode? bytes = some text) :
    encode text = bytes := by
  have hstart : State.Reads [] (.between "") := by
    simp [State.Reads, encode]
  have hreads := reads_foldl_step hstart bytes
  unfold decode? at h
  split at h
  next text' hstate =>
    obtain rfl := Option.some.inj h
    rw [hstate] at hreads
    exact hreads
  next => cases h

/-! ## The form of a text is decoded -/

theorem lead_one (text : String) (ha : a.toNat < 0x80) :
    State.lead text a = .between (text.push (Char.ofNat a.toNat)) := by
  have hlt : a < 0x80 := UInt8.lt_iff_toNat_lt.2 ha
  rw [State.lead, if_pos hlt]

theorem lead_two (text : String) (ha : 0xC2 ≤ a.toNat) (ha' : a.toNat < 0xE0) :
    State.lead text a = .inside text ⟨a.toNat - 0xC0, 1, 0x80, 0xBF⟩ := by
  unfold State.lead
  simp only [UInt8.lt_iff_toNat_lt, beq_iff_eq, ← UInt8.toNat_inj, UInt8.reduceToNat]
  rw [if_neg (by omega), if_neg (by omega), if_pos ha']

theorem exists_lead_three (text : String) (ha : 0xE0 ≤ a.toNat) (ha' : a.toNat < 0xF0) :
    ∃ least greatest, State.lead text a = .inside text ⟨a.toNat - 0xE0, 2, least, greatest⟩ ∧
      (a.toNat = 0xE0 ∧ least = 0xA0 ∨ a.toNat ≠ 0xE0 ∧ least = 0x80) ∧
      (a.toNat = 0xED ∧ greatest = 0x9F ∨ a.toNat ≠ 0xED ∧ greatest = 0xBF) := by
  unfold State.lead
  simp only [UInt8.lt_iff_toNat_lt, beq_iff_eq, ← UInt8.toNat_inj, UInt8.reduceToNat]
  rw [if_neg (by omega), if_neg (by omega), if_neg (by omega)]
  by_cases hE0 : a.toNat = 0xE0
  · refine ⟨0xA0, 0xBF, ?_, .inl ⟨hE0, rfl⟩, .inr ⟨by omega, rfl⟩⟩
    rw [if_pos hE0, hE0]
  rw [if_neg hE0]
  by_cases hED : a.toNat = 0xED
  · refine ⟨0x80, 0x9F, ?_, .inr ⟨hE0, rfl⟩, .inl ⟨hED, rfl⟩⟩
    rw [if_pos hED, hED]
  · refine ⟨0x80, 0xBF, ?_, .inr ⟨hE0, rfl⟩, .inr ⟨hED, rfl⟩⟩
    rw [if_neg hED, if_pos ha']

theorem exists_lead_four (text : String) (ha : 0xF0 ≤ a.toNat) (ha' : a.toNat ≤ 0xF4) :
    ∃ least greatest, State.lead text a = .inside text ⟨a.toNat - 0xF0, 3, least, greatest⟩ ∧
      (a.toNat = 0xF0 ∧ least = 0x90 ∨ a.toNat ≠ 0xF0 ∧ least = 0x80) ∧
      (a.toNat = 0xF4 ∧ greatest = 0x8F ∨ a.toNat ≠ 0xF4 ∧ greatest = 0xBF) := by
  unfold State.lead
  simp only [UInt8.lt_iff_toNat_lt, beq_iff_eq, ← UInt8.toNat_inj, UInt8.reduceToNat]
  rw [if_neg (by omega), if_neg (by omega), if_neg (by omega), if_neg (by omega),
    if_neg (by omega), if_neg (by omega)]
  by_cases hF0 : a.toNat = 0xF0
  · refine ⟨0x90, 0xBF, ?_, .inl ⟨hF0, rfl⟩, .inr ⟨by omega, rfl⟩⟩
    rw [if_pos hF0, hF0]
  rw [if_neg hF0]
  by_cases hF4 : a.toNat = 0xF4
  · refine ⟨0x80, 0x8F, ?_, .inr ⟨hF0, rfl⟩, .inl ⟨hF4, rfl⟩⟩
    rw [if_neg (by omega), if_pos hF4, hF4]
  · refine ⟨0x80, 0xBF, ?_, .inr ⟨hF0, rfl⟩, .inr ⟨hF4, rfl⟩⟩
    rw [if_pos (by omega)]

theorem completes_last {value : Nat} {least greatest : UInt8} {c : Char} (hleast : least ≤ b)
    (hgreatest : b ≤ greatest) (hvalue : value * 64 + b.toNat % 64 = c.toNat) :
    Completes ⟨value, 1, least, greatest⟩ [b] c := by
  have h : Completes ⟨value, 1, least, greatest⟩ [b] (Char.ofNat (value * 64 + b.toNat % 64)) :=
    .last (Nat.le_refl 1) hleast hgreatest
  rwa [hvalue, Char.ofNat_toNat] at h

theorem completes_more {value missing : Nat} {least greatest : UInt8} {tail : Bytes} {c : Char}
    (hleast : least ≤ b) (hgreatest : b ≤ greatest)
    (htail : Completes ⟨value * 64 + b.toNat % 64, missing + 1, 0x80, 0xBF⟩ tail c) :
    Completes ⟨value, missing + 2, least, greatest⟩ (b :: tail) c :=
  .more (by simp) hleast hgreatest htail

theorem foldl_step_of_completes {u : Unfinished} {tail : Bytes} {c : Char}
    (h : Completes u tail c) (text : String) :
    tail.foldl State.step (.inside text u) = .between (text.push c) := by
  induction h with
  | last hmissing hleast hgreatest =>
      simp [State.step, State.follow, hmissing, hleast, hgreatest]
  | more hmissing hleast hgreatest htail ih =>
      simpa [State.step, State.follow, hmissing, hleast, hgreatest] using ih

/-- A later byte with six bits of a value lies in the usual range. -/
theorem follows_range (n : Nat) :
    (0x80 : UInt8) ≤ UInt8.ofNat (n % 64 + 0x80) ∧ UInt8.ofNat (n % 64 + 0x80) ≤ (0xBF : UInt8) ∧
      (UInt8.ofNat (n % 64 + 0x80)).toNat = n % 64 + 0x80 := by
  have hvalue : (UInt8.ofNat (n % 64 + 0x80)).toNat = n % 64 + 0x80 := by
    rw [UInt8.toNat_ofNat']
    omega
  refine ⟨?_, ?_, hvalue⟩
  · rw [UInt8.le_iff_toNat_le, hvalue]
    exact Nat.le_add_left 0x80 _
  · rw [UInt8.le_iff_toNat_le, hvalue]
    change _ ≤ 0xBF
    omega

theorem foldl_step_char (text : String) (c : Char) :
    (utf8EncodeChar c).foldl State.step (.between text) = .between (text.push c) := by
  have hvalid : c.toNat < 0xD800 ∨ 0xDFFF < c.toNat ∧ c.toNat < 0x110000 := c.valid
  have hlead {n : Nat} (h : n < 256) : (UInt8.ofNat n).toNat = n := by
    simpa using h
  obtain ⟨hleast₀, hgreatest₀, hlast⟩ := follows_range c.toNat
  obtain ⟨hleast₁, hgreatest₁, hsecond⟩ := follows_range (c.toNat / 64)
  obtain ⟨hleast₂, hgreatest₂, hthird⟩ := follows_range (c.toNat / 4096)
  rcases toNat_lt_cases c with hone | htwo | hthree | hfour
  · have ha := hlead (n := c.toNat) (by omega)
    rw [utf8EncodeChar_one hone, List.foldl_cons, List.foldl_nil, State.step,
      lead_one text (by omega), ha, Char.ofNat_toNat]
  · have ha := hlead (n := c.toNat / 64 + 0xC0) (by omega)
    rw [utf8EncodeChar_two htwo.1 htwo.2, List.foldl_cons, State.step,
      lead_two text (by omega) (by omega)]
    exact foldl_step_of_completes (completes_last hleast₀ hgreatest₀ (by omega)) text
  · have ha := hlead (n := c.toNat / 4096 + 0xE0) (by omega)
    obtain ⟨least, greatest, hstate, hleast, hgreatest⟩ :=
      exists_lead_three (a := UInt8.ofNat (c.toNat / 4096 + 0xE0)) text (by omega) (by omega)
    rw [utf8EncodeChar_three hthree.1 hthree.2, List.foldl_cons, State.step, hstate]
    refine foldl_step_of_completes (completes_more ?_ ?_
      (completes_last hleast₀ hgreatest₀ (by omega))) text
    · rcases hleast with ⟨hE0, rfl⟩ | ⟨-, rfl⟩
      · rw [UInt8.le_iff_toNat_le, hsecond]
        change 0xA0 ≤ _
        omega
      · exact hleast₁
    · rcases hgreatest with ⟨hED, rfl⟩ | ⟨-, rfl⟩
      · rw [UInt8.le_iff_toNat_le, hsecond]
        change _ ≤ 0x9F
        omega
      · exact hgreatest₁
  · have ha := hlead (n := c.toNat / 262144 + 0xF0) (by omega)
    obtain ⟨least, greatest, hstate, hleast, hgreatest⟩ :=
      exists_lead_four (a := UInt8.ofNat (c.toNat / 262144 + 0xF0)) text (by omega) (by omega)
    rw [utf8EncodeChar_four hfour.1 hfour.2, List.foldl_cons, State.step, hstate]
    refine foldl_step_of_completes (completes_more ?_ ?_ (completes_more hleast₁ hgreatest₁
      (completes_last hleast₀ hgreatest₀ (by omega)))) text
    · rcases hleast with ⟨hF0, rfl⟩ | ⟨-, rfl⟩
      · rw [UInt8.le_iff_toNat_le, hthird]
        change 0x90 ≤ _
        omega
      · exact hleast₂
    · rcases hgreatest with ⟨hF4, rfl⟩ | ⟨-, rfl⟩
      · rw [UInt8.le_iff_toNat_le, hthird]
        change _ ≤ 0x8F
        omega
      · exact hgreatest₂

theorem foldl_step_chars (chars : List Char) (text : String) :
    (chars.flatMap utf8EncodeChar).foldl State.step (.between text) =
      .between (text ++ String.ofList chars) := by
  induction chars generalizing text with
  | nil => simp
  | cons c chars ih =>
      rw [List.flatMap_cons, List.foldl_append, foldl_step_char, ih, String.push_eq_append,
        String.append_assoc]
      simp

theorem decode?_encode (text : String) : decode? (encode text) = some text := by
  rw [decode?, encode_eq_flatMap, foldl_step_chars]
  simp

/-- Bytes are decoded exactly if they are the form of a text, and to that text. -/
theorem decode?_eq_some_iff {bytes : Bytes} {text : String} :
    decode? bytes = some text ↔ encode text = bytes := by
  constructor
  · exact encode_of_decode?
  · rintro rfl
    exact decode?_encode text

end Utf8

end PipeShell
