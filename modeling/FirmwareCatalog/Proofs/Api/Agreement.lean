/-
**The endpoints agree.**

The same record comes from several endpoints: a firmware by itself, in the list of a version, and in
the history of a device.  Whether it is read, and as what, does not depend on where it stands.  A list
is read exactly if every item is, and then it holds what the items are read as, all of them and in
their order.

An array is written from the texts of its items.  These may have blanks around them, and an item that
ends in a number is stopped by the comma behind it, so the rules for arrays apply item by item.

Main definitions:

* `Json.arrayText` — the text of an array, from those of its items.

Main results:

* `Json.isTextOf_arrayText` — what the text of an array says;
* `DocumentKind.read_list_iff` — **a list is read item by item**;
* `Client.endpoints_agree` — **the endpoints agree on every firmware**.
-/
import FirmwareCatalog.Proofs.Api.Address
import FirmwareCatalog.Proofs.Api.Session
import FirmwareCatalog.Proofs.Catalog.Contents

set_option relaxedAutoImplicit false
set_option autoImplicit false

namespace FirmwareCatalog

open Json (IsTextOf Takes)

/-! ### Texts of arrays -/

namespace Json

/-- The text of an array with these items. -/
def arrayText (es : List String) : String := "[" ++ String.intercalate "," es ++ "]"

/-- The items of an array are written one after the other, with a comma between any two. -/
theorem spells_items {es : List String} {cs : List Content} (h : List.Forall₂ IsTextOf es cs)
    (hne : es ≠ []) :
    Spells ([','].intercalate (es.map String.toList) ++ [']']) (.items cs) [] := by
  have hblank {rest t : List Char} {d : Char} (hrest : skipBlank rest = [])
      (hd : d ∉ [' ', '\n', '\t', '\r']) : skipBlank (rest ++ d :: t) = d :: t := by
    rw [skipBlank, List.dropWhile_append, show rest.dropWhile _ = [] from hrest]
    exact skipBlank_cons hd t
  induction h with
  | nil => exact absurd rfl hne
  | @cons e c es cs he htail ih =>
      obtain ⟨rest, hspells, hrest⟩ := he
      cases es with
      | nil =>
          cases htail
          rw [List.map_singleton, List.intercalate_singleton]
          exact .lastItem (hspells.append [']']) (hblank hrest (by decide))
      | cons e' es =>
          have hitems := ih (List.cons_ne_nil e' es)
          rw [List.map_cons, List.map_cons, List.intercalate_cons_cons, List.append_assoc,
            List.append_assoc, List.singleton_append]
          exact .item (hspells.append _) (hblank hrest (by decide)) hitems

/-- **What the text of an array says.** -/
theorem isTextOf_arrayText {es : List String} {cs : List Content} (h : List.Forall₂ IsTextOf es cs) :
    IsTextOf (arrayText es) (.array cs) := by
  have htext : (arrayText es).toList =
      '[' :: ([','].intercalate (es.map String.toList) ++ [']']) := by
    simp [arrayText, String.toList_append, String.toList_intercalate]
  refine ⟨[], ?_, rfl⟩
  rw [htext]
  cases h with
  | nil => exact .emptyArray (skipBlank_cons (by decide) _) (skipBlank_cons (by decide) _)
  | cons he htail =>
      exact .array (skipBlank_cons (by decide) _) (spells_items (.cons he htail) (List.cons_ne_nil _ _))

end Json

/-! ### Lists -/

namespace DocumentKind

theorem forall₂_read_iff {kind : DocumentKind} {es : List String} {cs : List Json.Content}
    (h : List.Forall₂ IsTextOf es cs) (vs : List kind.Content) :
    List.Forall₂ (Takes kind.decoder) cs vs ↔
      List.Forall₂ (fun e v => kind.read e = .ok v) es vs := by
  induction h generalizing vs with
  | nil => simp only [List.forall₂_nil_left_iff]
  | cons he _ ih => simp only [List.forall₂_cons_left_iff, ih, read_iff he]

/-- **A list is read item by item**: it is read exactly if every item is, and holds what the items
are read as, in their order. -/
theorem read_list_iff {kind : DocumentKind} {es : List String}
    (h : ∀ e ∈ es, ∃ c, IsTextOf e c) (vs : List kind.Content) :
    (list kind).read (Json.arrayText es) = .ok vs ↔
      List.Forall₂ (fun e v => kind.read e = .ok v) es vs := by
  obtain ⟨cs, hcs⟩ : ∃ cs, List.Forall₂ IsTextOf es cs := by
    induction es with
    | nil => exact ⟨[], .nil⟩
    | cons e es ih =>
        obtain ⟨⟨c, hc⟩, htail⟩ := List.forall_mem_cons.1 h
        obtain ⟨cs, hcs⟩ := ih htail
        exact ⟨c :: cs, .cons hc hcs⟩
  calc (list kind).read (Json.arrayText es) = .ok vs
      ↔ Takes (list kind).decoder (.array cs) vs := read_iff (Json.isTextOf_arrayText hcs)
    _ ↔ List.Forall₂ (Takes kind.decoder) cs vs := Json.takes_list_array_iff
    _ ↔ List.Forall₂ (fun e v => kind.read e = .ok v) es vs := forall₂_read_iff hcs vs

end DocumentKind

/-! ### One firmware from four questions -/

/-- The text gives a device the history, and its other members alone are those of the device. -/
def Device.IsTextWith (text : String) (d : Device) (history : List Json.Content) : Prop :=
  ∃ before after bare, some "firmwares" ∉ (before ++ after).map Prod.fst ∧
    IsTextOf bare (.object (before ++ after)) ∧ DocumentKind.device.read bare = .ok d ∧
      IsTextOf text (.object (before ++ (some "firmwares", .array history) :: after))

/-- A text with a history of one firmware is read as that of the device if the firmware is read. -/
theorem Device.IsTextWith.read_iff {text F : String} {d v : Device} {c : Json.Content}
    (h : IsTextWith text d [c]) (hF : IsTextOf F c) :
    DocumentKind.device.read text = .ok v ↔
      ∃ fw, DocumentKind.firmware.read F = .ok fw ∧ v = { d with firmwares := [fw] } := by
  obtain ⟨before, after, bare, hnone, hbare, hd, htext⟩ := h
  have hwithout := (DocumentKind.read_iff hbare).1 hd
  refine (DocumentKind.read_iff htext).trans
    ((Device.takes_history_iff hwithout hnone).trans ⟨?_, ?_⟩)
  · rintro ⟨fws, hfws, rfl⟩
    obtain ⟨fw, rest, hfw, hrest, rfl⟩ := List.forall₂_cons_left_iff.1 hfws
    cases hrest
    exact ⟨fw, (DocumentKind.read_iff hF).2 hfw, rfl⟩
  · rintro ⟨fw, hfw, rfl⟩
    exact ⟨[fw], .cons ((DocumentKind.read_iff hF).1 hfw) .nil, rfl⟩

namespace Client

variable {σ : Type}

/-- **The endpoints agree on records, and lists lose nothing.**  A list of texts that each say one
thing is read exactly if all of them are, as the list of what they are read as.  In particular a
firmware is the same whether it is asked for by itself, with the firmwares of a version, with its
device or with the history of its device: either all four questions give that firmware, or the body
cannot be decoded for any of them. -/
theorem endpoints_agree (c : Client) :
    (∀ (kind : DocumentKind) (es : List String), (∀ e ∈ es, ∃ content, IsTextOf e content) →
      ∀ vs : List kind.Content, (DocumentKind.list kind).read (Json.arrayText es) = .ok vs ↔
        List.Forall₂ (fun e v => kind.read e = .ok v) es vs) ∧
    ∀ (F D : String) (content : Json.Content) (d : Device) (identifier build version model : String)
      (s₁ s₂ s₃ s₁' s₂' s₃' : Session σ), IsTextOf F content → Device.IsTextWith D d [content] →
      c.IsAnswered (.firmware identifier build) s₁ F s₁' →
      c.IsAnswered (.firmwares version) s₂ (Json.arrayText [F]) s₂' →
      c.IsAnswered (.device model) s₃ D s₃' →
        (∃ fw, (c.firmware identifier build).run s₁ = (.ok fw, s₁') ∧
          (c.firmwares version).run s₂ = (.ok [fw], s₂') ∧
          (c.device model).run s₃ = (.ok { d with firmwares := [fw] }, s₃') ∧
          (c.history model).run s₃ = (.ok [fw], s₃')) ∨
        ∃ r₁ r₂ r₃, (c.firmware identifier build).run s₁ = (.error (undecodable r₁ F.toList), s₁') ∧
          (c.firmwares version).run s₂ =
            (.error (undecodable r₂ (Json.arrayText [F]).toList), s₂') ∧
          (c.device model).run s₃ = (.error (undecodable r₃ D.toList), s₃') ∧
          (c.history model).run s₃ = (.error (undecodable r₃ D.toList), s₃') := by
  refine ⟨fun kind es hes vs => DocumentKind.read_list_iff hes vs, ?_⟩
  intro F D content d identifier build version model s₁ s₂ s₃ s₁' s₂' s₃' hF hD hone hmany hdevice
  have hlist (fws : List Firmware) :
      (DocumentKind.list .firmware).read (Json.arrayText [F]) = .ok fws ↔
        List.Forall₂ (fun e fw => DocumentKind.firmware.read e = .ok fw) [F] fws :=
    @DocumentKind.read_list_iff .firmware [F] (List.forall_mem_singleton.2 ⟨content, hF⟩) fws
  have hrecord (v : Device) := hD.read_iff hF (v := v)
  cases hread : DocumentKind.firmware.read F with
  | ok fw =>
      have hasked := hdevice.get_ok ((hrecord _).2 ⟨fw, hread, rfl⟩)
      exact Or.inl ⟨fw, hone.get_ok hread, hmany.get_ok ((hlist [fw]).2 (.cons hread .nil)), hasked,
        Call.run_bind_ok hasked⟩
  | error r₁ =>
      obtain ⟨r₂, hr₂⟩ : ∃ r, (DocumentKind.list .firmware).read (Json.arrayText [F]) = .error r :=
        DocumentKind.exists_error fun fws hfws => by
          obtain ⟨fw, rest, hfw, -, -⟩ := List.forall₂_cons_left_iff.1 ((hlist fws).1 hfws)
          rw [hread] at hfw
          cases hfw
      obtain ⟨r₃, hr₃⟩ : ∃ r, DocumentKind.device.read D = .error r :=
        DocumentKind.exists_error fun v hv => by
          obtain ⟨fw, hfw, -⟩ := (hrecord v).1 hv
          rw [hread] at hfw
          cases hfw
      have hasked := hdevice.get_error hr₃
      exact Or.inr ⟨r₁, r₂, r₃, hone.get_error hread, hmany.get_error hr₂, hasked,
        Call.run_bind_error hasked⟩

def addressText : String := " \x7b\"url\": \"u\"\x7d\n"

def historyText : String := "\x7b\"firmwares\":" ++ Json.arrayText [addressText] ++ "\x7d"

theorem endpoints_agree_address :
    (DocumentKind.list .firmware).read (Json.arrayText [addressText, addressText]) =
        .ok [{ url := "u" }, { url := "u" }] ∧
      ∃ s₁ s₂ s₃, (Client.firmware (.loopback []) "m" "b").run (.start (.saying addressText) ()) =
          (.ok { url := "u" }, s₁) ∧
        (Client.firmwares (.loopback []) "1").run
            (.start (.saying (Json.arrayText [addressText])) ()) =
          (.ok [{ url := "u" }], s₂) ∧
        (Client.history (.loopback []) "m").run (.start (.saying historyText) ()) =
          (.ok [{ url := "u" }], s₃) := by
  have hread : DocumentKind.firmware.read addressText = .ok { url := "u" } := by cbv
  have htext : IsTextOf addressText (.object [(some "url", .string (some "u"))]) :=
    Json.content?_eq_some_iff_isTextOf.1 (by cbv)
  have hbare : IsTextOf "\x7b\x7d" (.object []) := Json.content?_eq_some_iff_isTextOf.1 (by cbv)
  have hhistory : Device.IsTextWith historyText {} [.object [(some "url", .string (some "u"))]] :=
    ⟨[], [], "\x7b\x7d", by decide, hbare, by cbv, Json.content?_eq_some_iff_isTextOf.1 (by cbv)⟩
  obtain ⟨hlists, hendpoints⟩ := endpoints_agree (σ := Unit) (.loopback [])
  have hone : Client.IsAnswered (.loopback []) (.firmware "m" "b") _ addressText _ :=
    isAnswered_saying (by decide) addressText
  have hmany :
      Client.IsAnswered (.loopback []) (.firmwares "1") _ (Json.arrayText [addressText]) _ :=
    isAnswered_saying (by decide) _
  have hdevice : Client.IsAnswered (.loopback []) (.device "m") _ historyText _ :=
    isAnswered_saying (by decide) historyText
  refine ⟨(hlists .firmware [addressText, addressText] ?_ _).2 (.cons hread (.cons hread .nil)), ?_⟩
  · exact List.forall_mem_cons.2 ⟨⟨_, htext⟩, List.forall_mem_singleton.2 ⟨_, htext⟩⟩
  rcases hendpoints _ _ _ _ _ _ _ _ _ _ _ _ _ _ htext hhistory hone hmany hdevice with
    ⟨fw, hfw, hfws, -, hown⟩ | ⟨r₁, r₂, r₃, herror, -⟩
  · cases hfw.symm.trans (hone.get_ok hread)
    exact ⟨_, _, _, hfw, hfws, hown⟩
  · cases herror.symm.trans (hone.get_ok hread)

end Client

end FirmwareCatalog
