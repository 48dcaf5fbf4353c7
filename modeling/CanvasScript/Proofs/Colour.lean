import CanvasScript.Colour
import CanvasScript.Proofs.Fault
import CanvasScript.Proofs.Text.Case
import CanvasScript.Proofs.Text.Slice

/-!
# The spelling of colours

* `smallDigits`, `capitalDigits`: the sixteen digits in either case, in the order of their values.
* `IsDigit`, `Shows`: a character is the digit of a value; two digits show a byte.
* `ofHex?`, `Spells`: the colour of a text, told by its characters.

Results:
* `digit?_eq_some_iff`: the digits that are read are those of the two lists.
* `ofHex?_eq_some_iff`: the colours that are read are those that are spelt.
* `all_isHexOctet_iff`: the octets of a text are those of digits if its characters are digits.
* `parse_eq`: what is read by octets is what is read by characters.
* `ofHex?_map_foldChar`: the case of letters does not matter.
* `spells_text`: an opaque colour is written as one of its spellings.
* `parse_exact`: reading and writing colours.
-/

namespace CanvasScript.Colour

variable {c c₁ c₀ : Char} {cs : List Char} {n : Nat} {b : UInt8} {colour : Colour}

/-! ## Digits -/

/-- The digits with small letters, each at the index of its value. -/
def smallDigits : List Char :=
  ['0', '1', '2', '3', '4', '5', '6', '7', '8', '9', 'a', 'b', 'c', 'd', 'e', 'f']

/-- The digits with capitals, each at the index of its value. -/
def capitalDigits : List Char :=
  ['0', '1', '2', '3', '4', '5', '6', '7', '8', '9', 'A', 'B', 'C', 'D', 'E', 'F']

/-- A character is the digit of a value. -/
def IsDigit (c : Char) (n : Nat) : Prop :=
  smallDigits[n]? = some c ∨ capitalDigits[n]? = some c

instance (c : Char) (n : Nat) : Decidable (IsDigit c n) :=
  inferInstanceAs (Decidable (_ ∨ _))

theorem IsDigit.lt (h : IsDigit c n) : n < 16 := by
  rcases h with h | h <;>
    exact (List.getElem?_eq_some_iff.1 h).1

/-- What holds of the digits of both lists holds of all digits. -/
theorem IsDigit.elim {P : Char → Nat → Prop} (hsmall : ∀ n, ∀ h : n < 16, P smallDigits[n] n)
    (hcapital : ∀ n, ∀ h : n < 16, P capitalDigits[n] n) (h : IsDigit c n) : P c n := by
  rcases h with h | h
  · obtain ⟨hlt, rfl⟩ := List.getElem?_eq_some_iff.1 h
    exact hsmall n hlt
  · obtain ⟨hlt, rfl⟩ := List.getElem?_eq_some_iff.1 h
    exact hcapital n hlt

/-- A character between two others is the first of them moved on. -/
theorem exists_eq_ofNat {first last : Char} (h : first ≤ c ∧ c ≤ last) :
    c.toNat - first.toNat < last.toNat + 1 - first.toNat ∧
      c = Char.ofNat (first.toNat + (c.toNat - first.toNat)) := by
  have hfirst : first.toNat ≤ c.toNat := UInt32.le_iff_toNat_le.1 h.1
  have hlast : c.toNat ≤ last.toNat := UInt32.le_iff_toNat_le.1 h.2
  refine ⟨by omega, ?_⟩
  rw [Nat.add_sub_cancel' hfirst, Char.ofNat_toNat]

theorem isDigit_of_digit? (h : digit? c = some n) : IsDigit c n := by
  have hnumeral : ∀ n < '9'.toNat + 1 - '0'.toNat, IsDigit (Char.ofNat ('0'.toNat + n)) n := by
    decide
  have hsmall : ∀ n < 'f'.toNat + 1 - 'a'.toNat,
      IsDigit (Char.ofNat ('a'.toNat + n)) (n + 10) := by
    decide
  have hcapital : ∀ n < 'F'.toNat + 1 - 'A'.toNat,
      IsDigit (Char.ofNat ('A'.toNat + n)) (n + 10) := by
    decide
  unfold digit? at h
  split at h
  · rename_i hc
    obtain ⟨hlt, heq⟩ := exists_eq_ofNat hc
    rw [heq, ← Option.some.inj h]
    exact hnumeral _ hlt
  split at h
  · rename_i hc
    obtain ⟨hlt, heq⟩ := exists_eq_ofNat hc
    rw [heq, ← Option.some.inj h]
    exact hsmall _ hlt
  split at h
  · rename_i hc
    obtain ⟨hlt, heq⟩ := exists_eq_ofNat hc
    rw [heq, ← Option.some.inj h]
    exact hcapital _ hlt
  · cases h

/-- The digits that are read are those of the two lists. -/
theorem digit?_eq_some_iff : digit? c = some n ↔ IsDigit c n :=
  ⟨isDigit_of_digit?, IsDigit.elim (P := fun c n => digit? c = some n) (by decide) (by decide)⟩

/-- Folding the case of letters changes neither the value of a digit nor what is one. -/
theorem digit?_foldChar (c : Char) : digit? (Text.foldChar c) = digit? c :=
  Text.foldChar_induction (R := fun c d => digit? d = digit? c) (fun _ => rfl) (by decide) c

theorem foldChar_eq_hash (c : Char) : Text.foldChar c = '#' ↔ c = '#' :=
  Text.foldChar_induction (R := fun c d => d = '#' ↔ c = '#') (fun _ => Iff.rfl) (by decide) c

/-- The capital of a digit is the one of its value. -/
theorem upperChar_of_isDigit (h : IsDigit c n) : Text.upperChar c = [digitChar n] :=
  h.elim (P := fun c n => Text.upperChar c = [digitChar n]) (by decide) (by decide)

theorem isDigit_digitChar (h : n < 16) : IsDigit (digitChar n) n :=
  .inr ((by decide : ∀ n < 16, capitalDigits[n]? = some (digitChar n)) n h)

/-! ## Bytes -/

/-- Two digits show a byte. -/
def Shows (high low : Char) (b : UInt8) : Prop :=
  ∃ h l, IsDigit high h ∧ IsDigit low l ∧ b.toNat = 16 * h + l

theorem toNat_byte {h l : Nat} (hh : h < 16) (hl : l < 16) : (byte h l).toNat = 16 * h + l := by
  rw [byte, UInt8.toNat_ofNat']
  omega

theorem shows_iff :
    Shows c₁ c₀ b ↔ ∃ h l, digit? c₁ = some h ∧ digit? c₀ = some l ∧ b = byte h l := by
  unfold Shows
  simp only [digit?_eq_some_iff]
  refine exists_congr fun h => exists_congr fun l => and_congr_right fun hh => and_congr_right
    fun hl => ?_
  rw [← UInt8.toNat_inj, toNat_byte hh.lt hl.lt]

/-- A digit that stands for itself twice. -/
theorem shows_twice_iff : Shows c c b ↔ ∃ n, digit? c = some n ∧ b = byte n n := by
  rw [shows_iff]
  constructor
  · rintro ⟨h, l, hh, hl, hb⟩
    cases hh.symm.trans hl
    exact ⟨h, hh, hb⟩
  · rintro ⟨n, hn, hb⟩
    exact ⟨n, n, hn, hn, hb⟩

/-- A byte is shown by the digits that it is written with, and by no others in capitals. -/
theorem Shows.byteChars (h : Shows c₁ c₀ b) :
    Text.upperChar c₁ ++ Text.upperChar c₀ = byteChars b := by
  obtain ⟨h, l, hh, hl, hb⟩ := h
  have hhigh : b.toNat / 16 = h := by
    have := hl.lt
    omega
  have hlow : b.toNat % 16 = l := by
    have := hl.lt
    omega
  rw [upperChar_of_isDigit hh, upperChar_of_isDigit hl, Colour.byteChars, hhigh, hlow]
  rfl

theorem shows_byteChars (b : UInt8) :
    Shows (digitChar (b.toNat / 16)) (digitChar (b.toNat % 16)) b := by
  have hlt := b.toNat_lt
  exact ⟨b.toNat / 16, b.toNat % 16, isDigit_digitChar (by omega), isDigit_digitChar (by omega),
    by omega⟩

/-! ## Colours -/

/-- The colour spelt by a hash and three or six digits, character by character; each of three stands
for itself twice. -/
def ofHex? : List Char → Option Colour
  | '#' :: cs =>
    match cs.mapM digit? with
    | some [r, g, b] => some (rgb (byte r r) (byte g g) (byte b b))
    | some [r₁, r₀, g₁, g₀, b₁, b₀] => some (rgb (byte r₁ r₀) (byte g₁ g₀) (byte b₁ b₀))
    | _ => none
  | _ => none

/-- The spellings of a colour: a hash and three digits, each of which stands for itself twice, or a
hash and six digits. The colour is opaque. -/
inductive Spells : List Char → Colour → Prop
  | short {r g b : Char} {red green blue : UInt8} (hr : Shows r r red) (hg : Shows g g green)
      (hb : Shows b b blue) : Spells ['#', r, g, b] ⟨red, green, blue, 255⟩
  | long {r₁ r₀ g₁ g₀ b₁ b₀ : Char} {red green blue : UInt8} (hr : Shows r₁ r₀ red)
      (hg : Shows g₁ g₀ green) (hb : Shows b₁ b₀ blue) :
      Spells ['#', r₁, r₀, g₁, g₀, b₁, b₀] ⟨red, green, blue, 255⟩

theorem mapM_digit?_eq_some_iff {ns : List Nat} :
    cs.mapM digit? = some ns ↔ cs.map digit? = ns.map some := by
  induction cs generalizing ns with
  | nil => cases ns <;> simp
  | cons c cs ih => cases ns <;> simp [List.mapM_cons, Option.bind_eq_some_iff, ih]

/-- The colours that are read are those that are spelt. -/
theorem ofHex?_eq_some_iff : ofHex? cs = some colour ↔ Spells cs colour := by
  constructor
  · intro h
    unfold ofHex? at h
    split at h
    · rename_i digits
      split at h
      · rename_i r g b hdigits
        rw [mapM_digit?_eq_some_iff] at hdigits
        rcases digits with _ | ⟨c₁, _ | ⟨c₂, _ | ⟨c₃, _ | ⟨c₄, digits⟩⟩⟩⟩ <;>
          simp only [List.map_cons, List.map_nil, List.cons.injEq, reduceCtorEq, and_false,
            and_true] at hdigits
        obtain ⟨hr, hg, hb⟩ := hdigits
        cases h
        exact .short (shows_twice_iff.2 ⟨r, hr, rfl⟩) (shows_twice_iff.2 ⟨g, hg, rfl⟩)
          (shows_twice_iff.2 ⟨b, hb, rfl⟩)
      · rename_i r₁ r₀ g₁ g₀ b₁ b₀ hdigits
        rw [mapM_digit?_eq_some_iff] at hdigits
        rcases digits with
          _ | ⟨c₁, _ | ⟨c₂, _ | ⟨c₃, _ | ⟨c₄, _ | ⟨c₅, _ | ⟨c₆, _ | ⟨c₇, digits⟩⟩⟩⟩⟩⟩⟩ <;>
          simp only [List.map_cons, List.map_nil, List.cons.injEq, reduceCtorEq, and_false,
            and_true] at hdigits
        obtain ⟨hr₁, hr₀, hg₁, hg₀, hb₁, hb₀⟩ := hdigits
        cases h
        exact .long (shows_iff.2 ⟨r₁, r₀, hr₁, hr₀, rfl⟩) (shows_iff.2 ⟨g₁, g₀, hg₁, hg₀, rfl⟩)
          (shows_iff.2 ⟨b₁, b₀, hb₁, hb₀, rfl⟩)
      · cases h
    · cases h
  · intro h
    cases h with
    | short hred hgreen hblue =>
      obtain ⟨r, hr, rfl⟩ := shows_twice_iff.1 hred
      obtain ⟨g, hg, rfl⟩ := shows_twice_iff.1 hgreen
      obtain ⟨b, hb, rfl⟩ := shows_twice_iff.1 hblue
      simp [ofHex?, List.mapM_cons, hr, hg, hb, rgb]
    | long hred hgreen hblue =>
      obtain ⟨r₁, r₀, hr₁, hr₀, rfl⟩ := shows_iff.1 hred
      obtain ⟨g₁, g₀, hg₁, hg₀, rfl⟩ := shows_iff.1 hgreen
      obtain ⟨b₁, b₀, hb₁, hb₀, rfl⟩ := shows_iff.1 hblue
      simp [ofHex?, List.mapM_cons, hr₁, hr₀, hg₁, hg₀, hb₁, hb₀, rgb]

/-! ## Octets

A text is checked octet by octet before it is cut into pieces, so that none of these can fail. -/

/-- The octets of a text are those of its characters. -/
theorem octets_ofList (cs : List Char) :
    (String.ofList cs).toUTF8.data.toList = cs.flatMap String.utf8EncodeChar := by
  rw [String.toUTF8_eq_toByteArray, String.toByteArray_ofList, List.utf8Encode]
  simp

/-- A digit is a single octet. -/
theorem utf8EncodeChar_of_isDigit (h : IsDigit c n) :
    String.utf8EncodeChar c = [UInt8.ofNat c.toNat] ∧ isHexOctet (UInt8.ofNat c.toNat) = true :=
  h.elim (P := fun c _ => String.utf8EncodeChar c = [UInt8.ofNat c.toNat] ∧
    isHexOctet (UInt8.ofNat c.toNat) = true) (by decide) (by decide)

/-- The first octet of a character beyond the first 128 is beyond them, too. -/
theorem exists_octet_ge (h : 128 ≤ c.toNat) : ∃ b ∈ String.utf8EncodeChar c, 128 ≤ b.toNat := by
  have hval : 128 ≤ c.val.toNat := h
  have hlt := c.val.toNat_lt
  unfold String.utf8EncodeChar
  dsimp only
  split
  · omega
  · split
    · refine ⟨_, List.mem_cons_self, ?_⟩
      rw [UInt8.toNat_ofNat']
      omega
    · split <;>
      · refine ⟨_, List.mem_cons_self, ?_⟩
        rw [UInt8.toNat_ofNat']
        omega

theorem isHexOctet_eq_false {b : UInt8} (h : 128 ≤ b.toNat) : isHexOctet b = false := by
  have hall : ∀ n < 256, 128 ≤ n → isHexOctet (UInt8.ofNat n) = false := by decide +kernel
  rw [← UInt8.ofNat_toNat (x := b)]
  exact hall _ b.toNat_lt h

/-- A character all of whose octets are those of digits is a digit. -/
theorem exists_digit_of_octets (h : (String.utf8EncodeChar c).all isHexOctet = true) :
    ∃ n, digit? c = some n := by
  have hsmall : ∀ n < 128, (String.utf8EncodeChar (Char.ofNat n)).all isHexOctet = true →
      (digit? (Char.ofNat n)).isSome = true := by
    decide +kernel
  rcases Nat.lt_or_ge c.toNat 128 with hlt | hge
  · rw [← Char.ofNat_toNat c] at h ⊢
    exact Option.isSome_iff_exists.1 (hsmall _ hlt h)
  · obtain ⟨b, hb, hb128⟩ := exists_octet_ge hge
    have hhex := List.all_eq_true.1 h b hb
    rw [isHexOctet_eq_false hb128] at hhex
    cases hhex

/-- The octets of a text are those of digits exactly if its characters are digits. -/
theorem all_isHexOctet_iff :
    (String.ofList cs).toUTF8.data.toList.all isHexOctet = true ↔
      ∃ ns : List Nat, cs.map digit? = ns.map some := by
  rw [octets_ofList]
  induction cs with
  | nil => exact ⟨fun _ => ⟨[], rfl⟩, fun _ => rfl⟩
  | cons c cs ih =>
    rw [List.flatMap_cons, List.all_append, Bool.and_eq_true, ih]
    constructor
    · rintro ⟨hc, ns, hns⟩
      obtain ⟨n, hn⟩ := exists_digit_of_octets hc
      exact ⟨n :: ns, by rw [List.map_cons, List.map_cons, hn, hns]⟩
    · rintro ⟨_ | ⟨n, ns⟩, hns⟩
      · cases hns
      · rw [List.map_cons, List.map_cons, List.cons.injEq] at hns
        obtain ⟨hone, hhex⟩ := utf8EncodeChar_of_isDigit (isDigit_of_digit? hns.1)
        exact ⟨by rw [hone, List.all_cons, hhex]; rfl, ns, hns.2⟩

/-- So there are as many octets as there are digits. -/
theorem utf8ByteSize_of_digits {ns : List Nat} (h : cs.map digit? = ns.map some) :
    (String.ofList cs).utf8ByteSize = cs.length := by
  induction cs generalizing ns with
  | nil => rfl
  | cons c cs ih =>
    rcases ns with _ | ⟨n, ns⟩
    · cases h
    · rw [List.map_cons, List.map_cons, List.cons.injEq] at h
      have hone := (utf8EncodeChar_of_isDigit (isDigit_of_digit? h.1)).1
      have hsize : c.utf8Size = 1 := by
        rw [← String.length_utf8EncodeChar, hone, List.length_singleton]
      rw [String.ofList_cons, String.utf8ByteSize_append, String.utf8ByteSize_singleton, hsize,
        ih h.2, List.length_cons, Nat.add_comm]

theorem digits_append {before after : List Char} {ns ms : List Nat}
    (hbefore : before.map digit? = ns.map some) (hafter : after.map digit? = ms.map some) :
    (before ++ after).map digit? = (ns ++ ms).map some := by
  rw [List.map_append, List.map_append, hbefore, hafter]

/-- Digits are cut where their octets are. -/
theorem sliceOrEmpty_of_digits {before piece : List Char} (after : List Char) {ns ms : List Nat}
    (hbefore : before.map digit? = ns.map some) (hpiece : piece.map digit? = ms.map some) :
    Text.sliceOrEmpty (String.ofList (before ++ piece ++ after)) before.length
      (before.length + piece.length) = String.ofList piece := by
  have h := Text.sliceOrEmpty_of_eq (s := String.ofList (before ++ piece ++ after))
    (String.ofList_append.trans (congrArg (· ++ _) String.ofList_append))
  rwa [utf8ByteSize_of_digits hbefore, utf8ByteSize_of_digits hpiece] at h

theorem readDigit_of_digit? (h : digit? c = some n) : readDigit c = .ok (UInt8.ofNat n) := by
  unfold readDigit
  rw [h]

theorem twice_eq (h : n < 16) : twice (UInt8.ofNat n) = byte n n :=
  (by decide : ∀ n < 16, twice (UInt8.ofNat n) = byte n n) n h

/-- Two digits make a byte; neither of them is a sign. -/
theorem readByte_of_digits {h l : Nat} (h₁ : digit? c₁ = some h) (h₀ : digit? c₀ = some l) :
    readByte (String.ofList [c₁, c₀]) = .ok (byte h l) := by
  have hsign : c₁ ≠ '+' := by
    rintro rfl
    cases h₁
  have hlt : 16 * h + l < 256 := by
    have := (isDigit_of_digit? h₁).lt
    have := (isDigit_of_digit? h₀).lt
    omega
  unfold readByte
  simp [hsign, hexNumber?, List.mapM_cons, h₁, h₀, hlt, byte]

theorem readDigits_three {d₁ d₂ d₃ : Char} {r g b : Nat} (hr : digit? d₁ = some r)
    (hg : digit? d₂ = some g) (hb : digit? d₃ = some b) (invalid : Fault) :
    readDigits (String.ofList [d₁, d₂, d₃]) invalid =
      .ok (rgb (byte r r) (byte g g) (byte b b)) := by
  have hdigits : [d₁, d₂, d₃].map digit? = [r, g, b].map some := by
    rw [List.map_cons, List.map_cons, List.map_cons, hr, hg, hb]
    rfl
  unfold readDigits
  rw [utf8ByteSize_of_digits hdigits, ← twice_eq (isDigit_of_digit? hr).lt,
    ← twice_eq (isDigit_of_digit? hg).lt, ← twice_eq (isDigit_of_digit? hb).lt]
  simp only [List.length_cons, List.length_nil, String.toList_ofList, List.mapM_cons,
    readDigit_of_digit? hr, readDigit_of_digit? hg, readDigit_of_digit? hb]
  rfl

theorem readDigits_six {d₁ d₀ e₁ e₀ f₁ f₀ : Char} {r₁ r₀ g₁ g₀ b₁ b₀ : Nat}
    (hr₁ : digit? d₁ = some r₁) (hr₀ : digit? d₀ = some r₀) (hg₁ : digit? e₁ = some g₁)
    (hg₀ : digit? e₀ = some g₀) (hb₁ : digit? f₁ = some b₁) (hb₀ : digit? f₀ = some b₀)
    (invalid : Fault) : readDigits (String.ofList [d₁, d₀, e₁, e₀, f₁, f₀]) invalid =
      .ok (rgb (byte r₁ r₀) (byte g₁ g₀) (byte b₁ b₀)) := by
  have hpair : ∀ {c₁ c₀ h l}, digit? c₁ = some h → digit? c₀ = some l →
      [c₁, c₀].map digit? = [h, l].map some := by
    intro c₁ c₀ h l h₁ h₀
    rw [List.map_cons, List.map_cons, h₁, h₀]
    rfl
  have hred := hpair hr₁ hr₀
  have hgreen := hpair hg₁ hg₀
  have hblue := hpair hb₁ hb₀
  have hfour := digits_append hred hgreen
  have hall : [d₁, d₀, e₁, e₀, f₁, f₀].map digit? = [r₁, r₀, g₁, g₀, b₁, b₀].map some :=
    digits_append hfour hblue
  have hnone : ([] : List Char).map digit? = ([] : List Nat).map some := rfl
  have hcut₁ : Text.sliceOrEmpty (String.ofList [d₁, d₀, e₁, e₀, f₁, f₀]) 0 2 =
      String.ofList [d₁, d₀] :=
    sliceOrEmpty_of_digits [e₁, e₀, f₁, f₀] hnone hred
  have hcut₂ : Text.sliceOrEmpty (String.ofList [d₁, d₀, e₁, e₀, f₁, f₀]) 2 4 =
      String.ofList [e₁, e₀] :=
    sliceOrEmpty_of_digits [f₁, f₀] hred hgreen
  have hcut₃ : Text.sliceOrEmpty (String.ofList [d₁, d₀, e₁, e₀, f₁, f₀]) 4 6 =
      String.ofList [f₁, f₀] :=
    sliceOrEmpty_of_digits [] hfour hblue
  unfold readDigits
  rw [utf8ByteSize_of_digits hall, hcut₁, hcut₂, hcut₃, readByte_of_digits hr₁ hr₀,
    readByte_of_digits hg₁ hg₀, readByte_of_digits hb₁ hb₀]
  rfl

/-- Behind the hash, nothing fails but the number of digits. -/
theorem readDigits_eq {ns : List Nat} (h : cs.map digit? = ns.map some) (invalid : Fault) :
    readDigits (String.ofList cs) invalid = (ofHex? ('#' :: cs)).elim (.error invalid) .ok := by
  have hlength : cs.length = ns.length := by
    rw [← List.length_map (f := digit?), h, List.length_map]
  rw [ofHex?, mapM_digit?_eq_some_iff.2 h]
  split
  · rename_i r g b hns
    cases hns
    rcases cs with _ | ⟨d₁, _ | ⟨d₂, _ | ⟨d₃, _ | ⟨d₄, cs⟩⟩⟩⟩ <;> cases hlength
    simp only [List.map_cons, List.map_nil, List.cons.injEq, and_true] at h
    exact readDigits_three h.1 h.2.1 h.2.2 invalid
  · rename_i hns
    cases hns
    rcases cs with
      _ | ⟨d₁, _ | ⟨d₂, _ | ⟨d₃, _ | ⟨d₄, _ | ⟨d₅, _ | ⟨d₆, _ | ⟨d₇, cs⟩⟩⟩⟩⟩⟩⟩ <;> cases hlength
    simp only [List.map_cons, List.map_nil, List.cons.injEq, and_true] at h
    obtain ⟨h₁, h₂, h₃, h₄, h₅, h₆⟩ := h
    exact readDigits_six h₁ h₂ h₃ h₄ h₅ h₆ invalid
  · rename_i hthree hsix
    unfold readDigits
    rw [utf8ByteSize_of_digits h, hlength]
    split
    · rename_i hlen
      rcases ns with _ | ⟨n₁, _ | ⟨n₂, _ | ⟨n₃, _ | ⟨n₄, ns⟩⟩⟩⟩ <;> cases hlen
      exact absurd rfl (hthree _ _ _)
    · rename_i hlen
      rcases ns with
        _ | ⟨n₁, _ | ⟨n₂, _ | ⟨n₃, _ | ⟨n₄, _ | ⟨n₅, _ | ⟨n₆, _ | ⟨n₇, ns⟩⟩⟩⟩⟩⟩⟩ <;> cases hlen
      exact absurd rfl (hsix _ _ _ _ _ _)
    · rfl

theorem parse_eq (s : String) :
    parse s = (ofHex? s.toList).elim (.error (.parse (.hexColour s))) .ok := by
  unfold parse
  split
  · rename_i cs heq
    rw [heq]
    dsimp only
    split
    · rename_i hhex
      obtain ⟨ns, hns⟩ := all_isHexOctet_iff.1 hhex
      exact readDigits_eq hns _
    · rename_i hhex
      have hnone : cs.mapM digit? = none := by
        rw [Option.eq_none_iff_forall_ne_some]
        exact fun ns hns => hhex (all_isHexOctet_iff.2 ⟨ns, mapM_digit?_eq_some_iff.1 hns⟩)
      rw [ofHex?, hnone]
      rfl
  · rename_i hhash
    unfold ofHex?
    split
    · rename_i cs heq
      exact absurd heq (hhash cs)
    · rfl

theorem toOption_parse (s : String) : (parse s).toOption = ofHex? s.toList := by
  rw [parse_eq]
  cases ofHex? s.toList <;> rfl

theorem parse_eq_ok_iff {s : String} : parse s = .ok colour ↔ Spells s.toList colour := by
  rw [← ofHex?_eq_some_iff, ← toOption_parse, toOption_eq_some_iff]

/-- What can be read is a hash with three or six digits behind it. -/
theorem exists_spells_iff :
    (∃ colour, Spells cs colour) ↔
      ∃ digits, cs = '#' :: digits ∧ (digits.length = 3 ∨ digits.length = 6) ∧
        ∀ c ∈ digits, ∃ n, IsDigit c n := by
  have hshows : ∀ {c₁ c₀ n₁ n₀}, IsDigit c₁ n₁ → IsDigit c₀ n₀ → ∃ b, Shows c₁ c₀ b :=
    fun h₁ h₀ => ⟨_, _, _, h₁, h₀, toNat_byte h₁.lt h₀.lt⟩
  constructor
  · rintro ⟨colour, h⟩
    cases h with
    | short hr hg hb =>
      obtain ⟨r, -, hr, -⟩ := hr
      obtain ⟨g, -, hg, -⟩ := hg
      obtain ⟨b, -, hb, -⟩ := hb
      exact ⟨_, rfl, .inl rfl, by simpa using ⟨⟨r, hr⟩, ⟨g, hg⟩, b, hb⟩⟩
    | long hr hg hb =>
      obtain ⟨r₁, r₀, hr₁, hr₀, -⟩ := hr
      obtain ⟨g₁, g₀, hg₁, hg₀, -⟩ := hg
      obtain ⟨b₁, b₀, hb₁, hb₀, -⟩ := hb
      exact ⟨_, rfl, .inr rfl,
        by simpa using ⟨⟨r₁, hr₁⟩, ⟨r₀, hr₀⟩, ⟨g₁, hg₁⟩, ⟨g₀, hg₀⟩, ⟨b₁, hb₁⟩, b₀, hb₀⟩⟩
  · rintro ⟨digits, rfl, hlength | hlength, hdigits⟩
    · rcases digits with _ | ⟨c₁, _ | ⟨c₂, _ | ⟨c₃, _ | ⟨c₄, digits⟩⟩⟩⟩ <;> cases hlength
      simp only [List.mem_cons, List.not_mem_nil, or_false, forall_eq_or_imp, forall_eq] at hdigits
      obtain ⟨⟨r, hr⟩, ⟨g, hg⟩, b, hb⟩ := hdigits
      obtain ⟨red, hred⟩ := hshows hr hr
      obtain ⟨green, hgreen⟩ := hshows hg hg
      obtain ⟨blue, hblue⟩ := hshows hb hb
      exact ⟨_, .short hred hgreen hblue⟩
    · rcases digits with
        _ | ⟨c₁, _ | ⟨c₂, _ | ⟨c₃, _ | ⟨c₄, _ | ⟨c₅, _ | ⟨c₆, _ | ⟨c₇, digits⟩⟩⟩⟩⟩⟩⟩ <;>
        cases hlength
      simp only [List.mem_cons, List.not_mem_nil, or_false, forall_eq_or_imp, forall_eq] at hdigits
      obtain ⟨⟨r₁, hr₁⟩, ⟨r₀, hr₀⟩, ⟨g₁, hg₁⟩, ⟨g₀, hg₀⟩, ⟨b₁, hb₁⟩, b₀, hb₀⟩ := hdigits
      obtain ⟨red, hred⟩ := hshows hr₁ hr₀
      obtain ⟨green, hgreen⟩ := hshows hg₁ hg₀
      obtain ⟨blue, hblue⟩ := hshows hb₁ hb₀
      exact ⟨_, .long hred hgreen hblue⟩

/-! ## Letter case -/

/-- The case of letters does not matter. -/
theorem ofHex?_map_foldChar (cs : List Char) : ofHex? (cs.map Text.foldChar) = ofHex? cs := by
  have hdigits : ∀ cs : List Char, (cs.map Text.foldChar).mapM digit? = cs.mapM digit? := by
    intro cs
    simp only [List.mapM_map, Function.comp_def, digit?_foldChar]
  cases cs with
  | nil => rfl
  | cons c cs =>
    by_cases hc : c = '#'
    · subst hc
      rw [List.map_cons, (foldChar_eq_hash '#').2 rfl, ofHex?, ofHex?, hdigits]
    · have hfold := mt (foldChar_eq_hash c).1 hc
      rw [List.map_cons]
      unfold ofHex?
      simp [hc, hfold]

theorem toOption_parse_of_sameFold {s t : String} (h : Text.sameFold s t = true) :
    (parse s).toOption = (parse t).toOption := by
  have hfold : s.toList.map Text.foldChar = t.toList.map Text.foldChar :=
    String.ofList_injective (beq_iff_eq.1 h)
  rw [toOption_parse, toOption_parse, ← ofHex?_map_foldChar, hfold, ofHex?_map_foldChar]

/-! ## Writing -/

/-- An opaque colour is written as one of its spellings. -/
theorem spells_text (h : colour.alpha = 255) : Spells colour.text.toList colour := by
  obtain ⟨red, green, blue, alpha⟩ := colour
  rw [text, String.toList_ofList, if_pos h]
  cases h
  exact .long (shows_byteChars red) (shows_byteChars green) (shows_byteChars blue)

/-- With six digits, the colour is written with their capitals. -/
theorem text_of_spells {s : String} (h : Spells s.toList colour) (hlength : s.length = 7) :
    colour.text = Text.upper s := by
  rw [← String.length_toList] at hlength
  unfold Text.upper
  generalize s.toList = cs at h hlength
  cases h with
  | short => cases hlength
  | long hr hg hb =>
    rw [text, if_pos rfl, ← hr.byteChars, ← hg.byteChars, ← hb.byteChars]
    simp [Text.upperChar]

/-- **Colours are read and written as they are spelt.** A text can be read as a colour exactly if
it is a hash with three or six hexadecimal digits behind it; the colour is opaque, each of its bytes
being shown by its two digits, or by one digit that stands for itself twice. Any other text is
refused by name. The case of letters does not matter. An opaque colour is written with six capital
digits, which read as this colour again, and as which a text of six digits is written back. -/
theorem parse_exact :
    (∀ s colour, parse s = .ok colour ↔ Spells s.toList colour) ∧
    (∀ s, (∃ colour, parse s = .ok colour) ↔
      ∃ digits, s.toList = '#' :: digits ∧ (digits.length = 3 ∨ digits.length = 6) ∧
        ∀ c ∈ digits, ∃ n, IsDigit c n) ∧
    (∀ s fault, parse s = .error fault → fault = .parse (.hexColour s)) ∧
    (∀ s t, Text.sameFold s t = true → (parse s).toOption = (parse t).toOption) ∧
    (∀ colour : Colour, colour.alpha = 255 →
      parse colour.text = .ok colour ∧ colour.text.length = 7 ∧
        Text.upper colour.text = colour.text) ∧
    ∀ s colour, parse s = .ok colour → s.length = 7 → colour.text = Text.upper s := by
  refine ⟨fun s colour => parse_eq_ok_iff, fun s => ?_, fun s fault h => ?_,
    fun s t => toOption_parse_of_sameFold, fun colour h => ?_, fun s colour h => ?_⟩
  · simp only [parse_eq_ok_iff]
    exact exists_spells_iff
  · rw [parse_eq] at h
    cases hread : ofHex? s.toList with
    | some colour =>
      rw [hread] at h
      cases h
    | none =>
      rw [hread] at h
      cases h
      rfl
  · have hlength : colour.text.length = 7 := by
      rw [← String.length_toList, text, String.toList_ofList, if_pos h]
      rfl
    exact ⟨parse_eq_ok_iff.2 (spells_text h), hlength, (text_of_spells (spells_text h) hlength).symm⟩
  · exact text_of_spells (parse_eq_ok_iff.1 h)

end CanvasScript.Colour
