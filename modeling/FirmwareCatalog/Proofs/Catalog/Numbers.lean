/-
**Numbers of catalog records.**

A device has two numbers of 32 bits, and a firmware has a size of 64 bits.  They stand in records,
in the histories of devices, and in lists of any depth.  Wherever such a number stands, the document
is read with exactly the literals there that are the digits of a number below the bound; the number
read is that one, and it is written with the same digits.  With any other literal the whole document
is refused: nothing is rounded, cut off or left at its default.

Main definitions:

* `DocumentKind.NumberAt` — the places of a document where a number stands.

Main results:

* `DocumentKind.NumberAt.of_takes`, `DocumentKind.NumberAt.exists_takes` — the numbers read, by
  induction on the place;
* `DocumentKind.NumberAt.written` — the same place in the written document;
* `DocumentKind.read_number` — **numbers are exact or refused**.
-/
import FirmwareCatalog.Proofs.Catalog.Contents
import FirmwareCatalog.Proofs.Json.Integers
import FirmwareCatalog.Proofs.Json.Slots

set_option relaxedAutoImplicit false
set_option autoImplicit false

namespace FirmwareCatalog

open Json (Content IsTextOf Numeral Slot Takes)

/-! ### Fields -/

section Fields

variable {plug : Content → Content} {c c₀ : Content} {l : Numeral}

theorem Device.takes_chip_iff {d d₀ : Device} (hslot : Slot DocumentKind.device.keys "cpid" plug)
    (h₀ : Takes decoder (plug c₀) d₀) (hl : (Content.number l).IsWritable) :
    Takes decoder (plug (.number l)) d ↔
      ∃ n : UInt32, l.IsPlain n.toNat ∧ d = { d₀ with chip := n } := by
  rw [decoder, hslot.takes_given_iff isRegular DocumentKind.device.follows_id rfl
    (fun _ _ _ => rfl) h₀ (by simp)]
  simp only [Json.takes_unsigned32_iff hl]

theorem Device.takes_board_iff {d d₀ : Device} (hslot : Slot DocumentKind.device.keys "bdid" plug)
    (h₀ : Takes decoder (plug c₀) d₀) (hl : (Content.number l).IsWritable) :
    Takes decoder (plug (.number l)) d ↔
      ∃ n : UInt32, l.IsPlain n.toNat ∧ d = { d₀ with boardId := n } := by
  rw [decoder, hslot.takes_given_iff isRegular DocumentKind.device.follows_id rfl
    (fun _ _ _ => rfl) h₀ (by simp)]
  simp only [Json.takes_unsigned32_iff hl]

theorem Firmware.takes_size_iff {fw fw₀ : Firmware}
    (hslot : Slot DocumentKind.firmware.keys "filesize" plug)
    (h₀ : Takes decoder (plug c₀) fw₀) (hl : (Content.number l).IsWritable) :
    Takes decoder (plug (.number l)) fw ↔
      ∃ n : UInt64, l.IsPlain n.toNat ∧ fw = { fw₀ with size := n } := by
  rw [decoder, hslot.takes_given_iff isRegular DocumentKind.firmware.follows_id rfl
    (fun _ _ _ => rfl) h₀ (by simp)]
  simp only [Json.takes_unsigned64_iff hl]

theorem Device.takes_slot_iff {d d₀ : Device}
    (hslot : Slot DocumentKind.device.keys "firmwares" plug) (h₀ : Takes decoder (plug c₀) d₀)
    {cs : List Content} :
    Takes decoder (plug (.array cs)) d ↔
      ∃ fws, List.Forall₂ (Takes Firmware.decoder) cs fws ∧ d = { d₀ with firmwares := fws } := by
  rw [decoder, hslot.takes_given_iff isRegular DocumentKind.device.follows_id rfl
    (fun _ _ _ => rfl) h₀ (by simp)]
  simp only [Json.takes_list_array_iff]

end Fields

namespace DocumentKind

/-! ### Places -/

/-- `NumberAt kind plug bound field`: in documents of the kind, a number below the bound stands in
the middle of the content `plug`, and is found in the document by `field`. -/
inductive NumberAt :
    (kind : DocumentKind) → (Json.Content → Json.Content) → Nat → (kind.Content → Option Nat) → Prop
  | chip {plug : Json.Content → Json.Content} (slot : Slot device.keys "cpid" plug) :
      NumberAt device plug UInt32.size fun d : Device => some d.chip.toNat
  | board {plug : Json.Content → Json.Content} (slot : Slot device.keys "bdid" plug) :
      NumberAt device plug UInt32.size fun d : Device => some d.boardId.toNat
  | size {plug : Json.Content → Json.Content} (slot : Slot firmware.keys "filesize" plug) :
      NumberAt firmware plug UInt64.size fun fw : Firmware => some fw.size.toNat
  /-- A number in an item of a list. -/
  | item {items : DocumentKind} {plug : Json.Content → Json.Content} {bound i : Nat}
      {field : items.Content → Option Nat} {before : List Json.Content} (after : List Json.Content)
      (place : before.length = i) (h : NumberAt items plug bound field) :
      NumberAt (list items) (fun c => .array (before ++ plug c :: after)) bound
        fun vs : List items.Content => vs[i]?.bind field
  /-- A number in a firmware of the history of a device. -/
  | history {outer plug : Json.Content → Json.Content} {bound i : Nat}
      {field : Firmware → Option Nat} {before : List Json.Content} (after : List Json.Content)
      (place : before.length = i) (slot : Slot device.keys "firmwares" outer)
      (h : NumberAt firmware plug bound field) :
      NumberAt device (fun c => outer (.array (before ++ plug c :: after))) bound
        fun d : Device => d.firmwares[i]?.bind field

theorem bind_getElem?_middle {α : Type} {field : α → Option Nat} {before after : List α} {a : α}
    {i : Nat} (h : before.length = i) : (before ++ a :: after)[i]?.bind field = field a := by
  rw [← h, List.getElem?_append_right (Nat.le_refl _), Nat.sub_self]
  rfl

section Places

variable {kind : DocumentKind} {plug : Json.Content → Json.Content} {bound n : Nat}
variable {field : kind.Content → Option Nat} {l : Numeral} {v : kind.Content}

/-- A content with a number in it can be written only if the number can. -/
theorem NumberAt.isWritable (h : NumberAt kind plug bound field) {c : Json.Content}
    (hc : (plug c).IsWritable) : c.IsWritable := by
  induction h with
  | chip slot => exact slot.isWritable hc
  | board slot => exact slot.isWritable hc
  | size slot => exact slot.isWritable hc
  | item after place _ ih =>
      cases hc with
      | array hitems => exact ih (hitems _ (List.mem_append_right _ List.mem_cons_self))
  | history after place slot _ ih =>
      cases slot.isWritable hc with
      | array hitems => exact ih (hitems _ (List.mem_append_right _ List.mem_cons_self))

/-- **A number that is read is below the bound, and it is the one whose digits stand there**, by
induction on the place. -/
theorem NumberAt.of_takes (h : NumberAt kind plug bound field) (hl : (Json.Content.number l).IsWritable)
    (hv : Takes kind.decoder (plug (.number l)) v) :
    ∃ n < bound, l.IsPlain n ∧ field v = some n := by
  induction h with
  | chip slot =>
      obtain ⟨n, hn, heq⟩ := (Device.takes_chip_iff slot hv hl).1 hv
      exact ⟨n.toNat, n.toNat_lt, hn, by rw [heq]⟩
  | board slot =>
      obtain ⟨n, hn, heq⟩ := (Device.takes_board_iff slot hv hl).1 hv
      exact ⟨n.toNat, n.toNat_lt, hn, by rw [heq]⟩
  | size slot =>
      obtain ⟨n, hn, heq⟩ := (Firmware.takes_size_iff slot hv hl).1 hv
      exact ⟨n.toNat, n.toNat_lt, hn, by rw [heq]⟩
  | item after place _ ih =>
      obtain ⟨vs, w, ws, rfl, hlength, -, hw, -⟩ :=
        Json.forall₂_takes_split.1 (Json.takes_list_array_iff.1 hv)
      obtain ⟨n, hlt, hn, hfield⟩ := ih hw
      exact ⟨n, hlt, hn, (bind_getElem?_middle (hlength.trans place)).trans hfield⟩
  | history after place slot _ ih =>
      obtain ⟨fws, hfws, heq⟩ := (Device.takes_slot_iff slot hv).1 hv
      obtain ⟨vs, w, ws, rfl, hlength, -, hw, -⟩ := Json.forall₂_takes_split.1 hfws
      obtain ⟨n, hlt, hn, hfield⟩ := ih hw
      have hhistory : (v : Device).firmwares = vs ++ w :: ws := congrArg Device.firmwares heq
      refine ⟨n, hlt, hn, ?_⟩
      change (v : Device).firmwares[_]?.bind _ = _
      rw [hhistory, bind_getElem?_middle (hlength.trans place), hfield]

/-- **The digits of a number below the bound are read**, where the document is read with anything
else in their place, by induction on the place. -/
theorem NumberAt.exists_takes (h : NumberAt kind plug bound field)
    (hl : (Json.Content.number l).IsWritable) {c₀ : Json.Content} {v₀ : kind.Content}
    (h₀ : Takes kind.decoder (plug c₀) v₀) (hn : l.IsPlain n) (hlt : n < bound) :
    ∃ v, Takes kind.decoder (plug (.number l)) v := by
  induction h with
  | chip slot =>
      have hplain : l.IsPlain (UInt32.ofNat n).toNat := by rwa [UInt32.toNat_ofNat_of_lt' hlt]
      exact ⟨_, (Device.takes_chip_iff slot h₀ hl).2 ⟨_, hplain, rfl⟩⟩
  | board slot =>
      have hplain : l.IsPlain (UInt32.ofNat n).toNat := by rwa [UInt32.toNat_ofNat_of_lt' hlt]
      exact ⟨_, (Device.takes_board_iff slot h₀ hl).2 ⟨_, hplain, rfl⟩⟩
  | size slot =>
      have hplain : l.IsPlain (UInt64.ofNat n).toNat := by rwa [UInt64.toNat_ofNat_of_lt' hlt]
      exact ⟨_, (Firmware.takes_size_iff slot h₀ hl).2 ⟨_, hplain, rfl⟩⟩
  | item after place _ ih =>
      obtain ⟨vs, w, ws, rfl, hlength, hvs, hw, hws⟩ :=
        Json.forall₂_takes_split.1 (Json.takes_list_array_iff.1 h₀)
      obtain ⟨w', hw'⟩ := ih hw hlt
      exact ⟨_, Json.takes_list_array_iff.2
        (Json.forall₂_takes_split.2 ⟨vs, w', ws, rfl, hlength, hvs, hw', hws⟩)⟩
  | history after place slot _ ih =>
      obtain ⟨fws, hfws, -⟩ := (Device.takes_slot_iff slot h₀).1 h₀
      obtain ⟨vs, w, ws, rfl, hlength, hvs, hw, hws⟩ := Json.forall₂_takes_split.1 hfws
      obtain ⟨w', hw'⟩ := ih hw hlt
      exact ⟨_, (Device.takes_slot_iff slot h₀).2
        ⟨_, Json.forall₂_takes_split.2 ⟨vs, w', ws, rfl, hlength, hvs, hw', hws⟩, rfl⟩⟩

def literalOf (n : Nat) : Numeral := ⟨false, Nat.toDigits 10 n, none, none, []⟩

/-- Written items are around each of them. -/
theorem exists_written_item {js : List Json} {j : Json} {i : Nat} (h : js[i]? = some j) :
    ∃ before after, before.length = i ∧
      Json.contentItems js = before ++ j.content :: after := by
  obtain ⟨hlt, rfl⟩ := List.getElem?_eq_some_iff.1 h
  have hsplit : js = js.take i ++ js[i] :: js.drop (i + 1) := by
    rw [← List.drop_eq_getElem_cons hlt, List.take_append_drop]
  refine ⟨(js.take i).map Json.content, (js.drop (i + 1)).map Json.content, ?_, ?_⟩
  · simp only [List.length_map, List.length_take]
    omega
  · conv_lhs => rw [hsplit]
    rw [Json.contentItems_eq_map]
    simp only [List.map_append, List.map_cons]

/-- **A number is written at its place, with its digits**, by induction on the place. -/
theorem NumberAt.written (h : NumberAt kind plug bound field) (hv : field v = some n) {j : Json}
    (hj : kind.toJson? v = some j) :
    ∃ plug', NumberAt kind plug' bound field ∧ j.content = plug' (.number (literalOf n)) := by
  induction h generalizing j with
  | chip slot =>
      cases hv
      cases hj
      have hmember : Json.HasMember (Device.toJson v) "cpid" (.nat (v : Device).chip.toNat) :=
        ⟨_, rfl, by simp⟩
      obtain ⟨plug', hslot, hplug⟩ := hmember.exists_slot device.keys
      exact ⟨plug', .chip hslot, hplug⟩
  | board slot =>
      cases hv
      cases hj
      have hmember : Json.HasMember (Device.toJson v) "bdid" (.nat (v : Device).boardId.toNat) :=
        ⟨_, rfl, by simp⟩
      obtain ⟨plug', hslot, hplug⟩ := hmember.exists_slot device.keys
      exact ⟨plug', .board hslot, hplug⟩
  | size slot =>
      cases hv
      cases hj
      have hmember : Json.HasMember (Firmware.toJson v) "filesize" (.nat (v : Firmware).size.toNat) :=
        ⟨_, rfl, by simp⟩
      obtain ⟨plug', hslot, hplug⟩ := hmember.exists_slot firmware.keys
      exact ⟨plug', .size hslot, hplug⟩
  | item after place _ ih =>
      obtain ⟨w, hw, hfield⟩ := Option.bind_eq_some_iff.1 hv
      obtain ⟨js, hjs, rfl⟩ := Option.map_eq_some_iff.1 hj
      obtain ⟨jw, hat, hjw⟩ := exists_getElem?_of_mapM hjs hw
      obtain ⟨plug', hplug, heq⟩ := ih hfield hjw
      obtain ⟨before', after', hlength, hitems⟩ := exists_written_item hat
      refine ⟨_, .item after' hlength hplug, ?_⟩
      rw [← heq, ← hitems]
      rfl
  | history after place slot _ ih =>
      cases hj
      obtain ⟨w, hw, hfield⟩ := Option.bind_eq_some_iff.1 hv
      obtain ⟨plug', hplug, heq⟩ := ih hfield rfl
      have hat : ((v : Device).firmwares.map Firmware.toJson)[_]? = some (Firmware.toJson w) :=
        List.getElem?_map.trans (congrArg (Option.map Firmware.toJson) hw)
      obtain ⟨before', after', hlength, hitems⟩ := exists_written_item hat
      have hmember : Json.HasMember (Device.toJson v) "firmwares"
          (.array ((v : Device).firmwares.map Firmware.toJson)) := ⟨_, rfl, by simp⟩
      obtain ⟨outer', hslot, houter⟩ := hmember.exists_slot device.keys
      refine ⟨_, .history after' hlength hslot hplug, ?_⟩
      rw [houter, Json.content, ← heq]
      exact congrArg (fun cs => outer' (.array cs)) hitems

end Places

/-! ### Texts -/

theorem eq_literalOf {l : Numeral} {n : Nat} (hl : (Json.Content.number l).IsWritable)
    (hn : l.IsPlain n) : l = literalOf n := by
  have hbare := (Json.isLiteral_of_isWritable hl).2
  obtain ⟨negative, whole, fraction, exponent, after⟩ := l
  obtain ⟨rfl, rfl, rfl, rfl⟩ := hn
  cases hbare
  rfl

/-- **Numbers are exact or refused.**  A document with a literal where a number is expected is read
only if the literal is made of the digits of a number below the bound.  Then the number is that one,
and the written document has the same literal at its place.  Any other literal makes the document an
error; and a document that is read with anything else at the place is read with every such literal.
-/
theorem read_number {kind : DocumentKind} {plug : Json.Content → Json.Content} {bound : Nat}
    {field : kind.Content → Option Nat} (h : NumberAt kind plug bound field) {l : Numeral} {s : String}
    (hs : IsTextOf s (plug (.number l))) :
    (∀ v, kind.read s = .ok v → ∃ n < bound, l.IsPlain n ∧ field v = some n ∧
      ∃ t plug', kind.write? v = some t ∧ NumberAt kind plug' bound field ∧
        IsTextOf t (plug' (.number l))) ∧
    ((¬ ∃ n < bound, l.IsPlain n) → ∃ e, kind.read s = .error e) ∧
    ∀ s₀ c₀ v₀, IsTextOf s₀ (plug c₀) → kind.read s₀ = .ok v₀ →
      ((∃ v, kind.read s = .ok v) ↔ ∃ n < bound, l.IsPlain n) := by
  have hl : (Json.Content.number l).IsWritable :=
    h.isWritable (Json.isWritable_of_content? (Json.content?_eq_some_iff_isTextOf.2 hs))
  have hread {v : kind.Content} (hv : kind.read s = .ok v) :
      ∃ n < bound, l.IsPlain n ∧ field v = some n := h.of_takes hl ((read_iff hs).1 hv)
  refine ⟨fun v hv => ?_, fun hnone => exists_error fun v hv => ?_, fun s₀ c₀ v₀ hs₀ hv₀ => ?_⟩
  · obtain ⟨n, hlt, hn, hfield⟩ := hread hv
    obtain ⟨j, hj⟩ := kind.exists_toJson?_iff.2 (Json.gives_decode kind.gives_hasTexts hv)
    obtain ⟨plug', hplug', hwritten⟩ := h.written hfield hj
    refine ⟨n, hlt, hn, hfield, j.render, plug', by rw [write?, hj]; rfl, hplug', ?_⟩
    rw [eq_literalOf hl hn, ← hwritten]
    exact Json.isTextOf_render j
  · obtain ⟨n, hlt, hn, -⟩ := hread hv
    exact hnone ⟨n, hlt, hn⟩
  · constructor
    · rintro ⟨v, hv⟩
      obtain ⟨n, hlt, hn, -⟩ := hread hv
      exact ⟨n, hlt, hn⟩
    · rintro ⟨n, hlt, hn⟩
      obtain ⟨v, hv⟩ := h.exists_takes hl ((read_iff hs₀).1 hv₀) hn hlt
      exact ⟨v, (read_iff hs).2 hv⟩

def largestText : String := "[\x7b\"firmwares\":[\x7b\"filesize\":18446744073709551615\x7d]\x7d]"

def sizelessText : String := "[\x7b\"firmwares\":[\x7b\"filesize\":null\x7d]\x7d]"

def tooLargeText : String := "\x7b\"cpid\":4294967296\x7d"

def signedText : String := "\x7b\"bdid\":-0\x7d"

theorem read_number_bounds :
    (∃ v, read (list device) largestText = .ok v) ∧ (∃ e, read device tooLargeText = .error e) ∧
      ∃ e, read device signedText = .error e := by
  have htext {s : String} {c : Json.Content} (h : Json.content? s = some c) : IsTextOf s c :=
    Json.content?_eq_some_iff_isTextOf.1 h
  -- the size of the first firmware of the first device of a list
  have hsize : NumberAt (list device) _ UInt64.size _ :=
    @NumberAt.item _ _ _ _ _ [] [] rfl (@NumberAt.history _ _ _ _ _ [] [] rfl (.member [] [])
      (.size (.member [] [])))
  have hchip : NumberAt device _ UInt32.size _ := .chip (.member [] [])
  have hboard : NumberAt device _ UInt32.size _ := .board (.member [] [])
  have hread : read (list device) sizelessText = .ok [{ firmwares := [{}] }] := by cbv
  have hlargest := htext (show Json.content? largestText = some _ by cbv)
  have hlarge := htext (show Json.content? tooLargeText = some _ by cbv)
  have hsigned := htext (show Json.content? signedText = some _ by cbv)
  have hsizeless := htext (show Json.content? sizelessText = some _ by cbv)
  refine ⟨?_, (read_number hchip hlarge).2.1 ?_, (read_number hboard hsigned).2.1 ?_⟩
  · refine ((read_number hsize hlargest).2.2 _ .null _ hsizeless hread).2 ?_
    exact ⟨18446744073709551615, by decide, rfl, rfl, rfl, rfl⟩
  · rintro ⟨n, hlt, hn⟩
    have hvalue := congrArg (Nat.ofDigitChars 10 · 0) hn.whole
    rw [Nat.ofDigitChars_ten_toDigits] at hvalue
    rw [← hvalue] at hlt
    exact absurd hlt (by decide)
  · rintro ⟨n, -, hn⟩
    cases hn.negative

end DocumentKind

end FirmwareCatalog
