/-
**Only the known keys matter.**

Catalogs are written by others.  They may give the members of an object in any order and with any
blanks, may escape any character of a key, and may add members that this library does not know,
with whatever values.  None of that changes what is read, and a text that is refused is still
refused.  A known key that comes twice is always refused, so that nothing depends on which of the two
values would count.

What may be changed is told change by change, for documents and for the records inside them, and a
document is read alike after each change, so it is after any number of them.  Blanks and escapes are
no change at all: they leave the content as it is.

Main definitions:

* `DocumentKind.Alike` — contents that differ in the order of members and in unknown members only;
* `DocumentKind.Repeats` — contents with a known key that comes twice.

Main results:

* `DocumentKind.Alike.takes_iff` — alike contents are taken for the same;
* `DocumentKind.Repeats.not_takes` — a repeated key is refused;
* `DocumentKind.read_alike` — **texts with alike contents are read alike, and texts with a repeated
  key are not read**.
-/
import FirmwareCatalog.Proofs.Catalog.Contents

set_option relaxedAutoImplicit false
set_option autoImplicit false

namespace FirmwareCatalog

open Json (IsTextOf Takes)

namespace DocumentKind

variable {kind : DocumentKind} {c c' : Json.Content}

/-! ### Changes that do not matter -/

/-- The contents say the same to a document of the kind: one comes from the other by changes of the
order of members, and by adding members with unknown keys or leaving them out, in the document and in
the records inside it.  The value of a member that is added can be anything that a text says. -/
inductive Alike : DocumentKind → Json.Content → Json.Content → Prop
  | refl {kind : DocumentKind} (c : Json.Content) : Alike kind c c
  | symm {kind : DocumentKind} {c c' : Json.Content} (h : Alike kind c c') : Alike kind c' c
  | trans {kind : DocumentKind} {c c' c'' : Json.Content} (h : Alike kind c c')
      (h' : Alike kind c' c'') : Alike kind c c''
  | order {kind : DocumentKind} {ms ms' : List (Option String × Json.Content)} (h : ms.Perm ms') :
      Alike kind (.object ms) (.object ms')
  | extra {kind : DocumentKind} {ms : List (Option String × Json.Content)} {k t : String}
      {c : Json.Content} (unknown : k ∉ kind.keys) (text : IsTextOf t c) :
      Alike kind (.object ms) (.object ((some k, c) :: ms))
  /-- An item of a list. -/
  | item {items : DocumentKind} {before after : List Json.Content} {c c' : Json.Content}
      (h : Alike items c c') :
      Alike (list items) (.array (before ++ c :: after)) (.array (before ++ c' :: after))
  /-- A firmware in the history of a device. -/
  | history {ms : List (Option String × Json.Content)} {before after : List Json.Content}
      {c c' : Json.Content} (h : Alike firmware c c') :
      Alike device (.object ((some "firmwares", .array (before ++ c :: after)) :: ms))
        (.object ((some "firmwares", .array (before ++ c' :: after)) :: ms))
  /-- The choices of settings. -/
  | choices {ms : List (Option String × Json.Content)} {c c' : Json.Content}
      (h : Alike apiSettings c c') :
      Alike settings (.object ((some "api", c) :: ms)) (.object ((some "api", c') :: ms))

theorem not_takes_object {items : DocumentKind} {ms : List (Option String × Json.Content)}
    (v : (list items).Content) : ¬ Takes (list items).decoder (.object ms) v := by
  rintro ⟨node, hc, hv⟩
  obtain ⟨start, members, rfl, -⟩ := Json.Node.eq_object hc
  cases hv

theorem isSaid_array_congr (before after : List Json.Content) (h : c.IsSaid ↔ c'.IsSaid) :
    (Json.Content.array (before ++ c :: after)).IsSaid ↔
      (Json.Content.array (before ++ c' :: after)).IsSaid := by
  simp only [Json.isSaid_array_iff, List.forall_mem_append, List.forall_mem_cons, h]

/-- **Alike contents are taken for the same**, by induction on the changes.  A change keeps a content
complete, which matters where it is a part of another one. -/
theorem Alike.takes_iff (h : kind.Alike c c') :
    (c.IsSaid ↔ c'.IsSaid) ∧ ∀ v, Takes kind.decoder c v ↔ Takes kind.decoder c' v := by
  induction h with
  | refl c => exact ⟨Iff.rfl, fun _ => Iff.rfl⟩
  | symm _ ih => exact ⟨ih.1.symm, fun v => (ih.2 v).symm⟩
  | trans _ _ ih ih' => exact ⟨ih.1.trans ih'.1, fun v => (ih.2 v).trans (ih'.2 v)⟩
  | @order kind ms ms' hperm =>
      refine ⟨by simp only [Json.isSaid_object_iff, hperm.mem_iff], fun v => ?_⟩
      rcases kind.exists_schema with ⟨items, rfl⟩ | ⟨schema, hregular, hdecoder, -⟩
      · exact iff_of_false (not_takes_object v) (not_takes_object v)
      · rw [hdecoder]
        exact Json.takes_object_perm_iff hregular hperm
  | @extra kind ms k t c unknown text =>
      refine ⟨?_, fun v => ?_⟩
      · rw [Json.isSaid_object_iff, Json.isSaid_object_iff, List.forall_mem_cons,
          and_iff_right text.isSaid]
      · rcases kind.exists_schema with ⟨items, rfl⟩ | ⟨schema, hregular, hdecoder, hkeys⟩
        · exact iff_of_false (not_takes_object v) (not_takes_object v)
        · rw [hkeys] at unknown
          rw [hdecoder]
          exact (Json.takes_object_extra_iff hregular (Json.Schema.field?_eq_none_iff.2 unknown)
            text.isSaid).symm
  | item _ ih =>
      refine ⟨isSaid_array_congr _ _ ih.1, fun vs => ?_⟩
      exact Json.takes_list_array_iff.trans
        ((Json.forall₂_takes_congr ih.2).trans Json.takes_list_array_iff.symm)
  | @history ms before after c c' _ ih =>
      -- the history is a field of the device, taken firmware by firmware
      have hitems := isSaid_array_congr before after ih.1
      refine ⟨?_, fun d => ?_⟩
      · rw [Json.isSaid_object_iff, Json.isSaid_object_iff, List.forall_mem_cons,
          List.forall_mem_cons, hitems]
      · refine Json.takes_object_congr Device.isRegular hitems fun f hf put => ?_
        rw [Device.takes_firmwares_iff hf, Device.takes_firmwares_iff hf]
        exact exists_congr fun fws => and_congr_left fun _ => Json.forall₂_takes_congr ih.2
  | choices _ ih =>
      refine ⟨?_, fun s => ?_⟩
      · rw [Json.isSaid_object_iff, Json.isSaid_object_iff, List.forall_mem_cons,
          List.forall_mem_cons, ih.1]
      · refine Json.takes_object_congr Settings.isRegular ih.1 fun f hf put => ?_
        rw [Settings.takes_api_iff hf, Settings.takes_api_iff hf]
        exact exists_congr fun a => and_congr_left fun _ => ih.2 a

/-! ### Keys that come twice -/

/-- A key that the document knows comes twice in it, or in a record inside it. -/
inductive Repeats : DocumentKind → Json.Content → Prop
  | key {kind : DocumentKind} {before between after : List (Option String × Json.Content)}
      {k : String} {c c' : Json.Content} (known : k ∈ kind.keys) :
      Repeats kind (.object (before ++ (some k, c) :: (between ++ (some k, c') :: after)))
  /-- An item of a list. -/
  | item {items : DocumentKind} {before after : List Json.Content} {c : Json.Content}
      (h : Repeats items c) : Repeats (list items) (.array (before ++ c :: after))
  /-- A firmware in the history of a device. -/
  | history {before after : List (Option String × Json.Content)}
      {newer older : List Json.Content} {c : Json.Content} (h : Repeats firmware c) :
      Repeats device (.object (before ++ (some "firmwares", .array (newer ++ c :: older)) :: after))
  /-- The choices of settings. -/
  | choices {before after : List (Option String × Json.Content)} {c : Json.Content}
      (h : Repeats apiSettings c) :
      Repeats settings (.object (before ++ (some "api", c) :: after))

/-- **A key that comes twice is refused**, whatever the values are, by induction on where it is. -/
theorem Repeats.not_takes (h : kind.Repeats c) : ∀ v, ¬ Takes kind.decoder c v := by
  induction h with
  | @key kind before between after k c c' known =>
      intro v hv
      rcases kind.exists_schema with ⟨items, rfl⟩ | ⟨schema, hregular, hdecoder, hkeys⟩
      · exact not_takes_object v hv
      · rw [hdecoder] at hv
        rw [hkeys] at known
        cases hfield : schema.field? k with
        | none => exact Json.Schema.field?_eq_none_iff.1 hfield known
        | some f =>
            exact Json.Schema.not_makes_of_repeated hfield ((Json.takes_object_iff hregular).1 hv).2
  | item _ ih =>
      intro vs hvs
      obtain ⟨v, hv⟩ := Json.exists_takes_item (Json.takes_list_array_iff.1 hvs)
      exact ih v hv
  | history _ ih =>
      intro d hd
      have hmakes := ((Json.takes_object_iff Device.isRegular).1 hd).2
      obtain ⟨put, hput⟩ := hmakes.takes_of_mem rfl (List.mem_append_right _ List.mem_cons_self)
      obtain ⟨fws, hfws, -⟩ := (Device.takes_firmwares_iff rfl).1 hput
      obtain ⟨fw, hfw⟩ := Json.exists_takes_item hfws
      exact ih fw hfw
  | choices _ ih =>
      intro s hs
      have hmakes := ((Json.takes_object_iff Settings.isRegular).1 hs).2
      obtain ⟨put, hput⟩ := hmakes.takes_of_mem rfl (List.mem_append_right _ List.mem_cons_self)
      obtain ⟨a, ha, -⟩ := (Settings.takes_api_iff rfl).1 hput
      exact ih a ha

/-! ### Reading -/

/-- **Only the known keys matter.**  Texts whose contents differ in the order of members and in
unknown members only are read as the same document, or none of them is read; and no text is read in
which a known key comes twice, in the document or in a record inside it. -/
theorem read_alike (kind : DocumentKind) :
    (∀ s s' c c', IsTextOf s c → IsTextOf s' c' → kind.Alike c c' →
      ∀ v, kind.read s = .ok v ↔ kind.read s' = .ok v) ∧
    ∀ s c, IsTextOf s c → kind.Repeats c → ∃ e, kind.read s = .error e := by
  refine ⟨fun s s' c c' hs hs' halike v => ?_, fun s c hs hrepeats => ?_⟩
  · rw [read_iff hs, read_iff hs']
    exact halike.takes_iff.2 v
  · exact exists_error fun v hread => hrepeats.not_takes v ((read_iff hs).1 hread)

def plainText : String :=
  "\x7b\"name\":\"a\",\"firmwares\":[\x7b\"url\":\"u\",\"signed\":true\x7d]\x7d"

/-- The same with its members in another order, with blanks and escapes, and with members that are
not known. -/
def mixedText : String :=
  "\x7b \"\\u0000\" : [1e999,[\x7b\x7d]],\n\"firmwares\":[ " ++
    "\x7b\"signed\":true,\"\":null,\"u\\u0072l\":\"u\"\x7d], \"n\\u0061me\" :\"\\u0061\" \x7d"

def repeatedText : String := "\x7b\"url\":\"u\",\"\":null,\"url\":null\x7d"

theorem read_alike_mixed :
    read .device plainText = .ok { name := "a", firmwares := [{ url := "u", signed := true }] } ∧
      read .device mixedText = .ok { name := "a", firmwares := [{ url := "u", signed := true }] } ∧
      ∃ e, read .firmware repeatedText = .error e := by
  have hread : read .device plainText =
      .ok { name := "a", firmwares := [{ url := "u", signed := true }] } := by cbv
  let url : Option String × Json.Content := (some "url", .string (some "u"))
  let signed : Option String × Json.Content := (some "signed", .bool true)
  let extra : Option String × Json.Content := (some "", .null)
  let large : Json.Content := .number ⟨false, ['1'], none, some ⟨false, ['9', '9', '9'], []⟩, []⟩
  -- from the plain text to the mixed one: the firmware, the order of the members, the unknown member
  have hnull : IsTextOf "null" .null := Json.content?_eq_some_iff_isTextOf.1 (by cbv)
  have hmoved : ([extra, url] ++ [signed]).Perm ([signed] ++ [extra, url]) := List.perm_append_comm
  have hfirmware : firmware.Alike (.object [url, signed]) (.object [signed, extra, url]) :=
    (Alike.extra (by decide) hnull).trans (.order hmoved)
  have hhistory : device.Alike _ _ :=
    @Alike.history [(some "name", .string (some "a"))] [] [] _ _ hfirmware
  have hvalue : IsTextOf "[1e999,[\x7b\x7d]]" (.array [large, .array [.object []]]) :=
    Json.content?_eq_some_iff_isTextOf.1 (by cbv)
  have hextra : "\x00" ∉ device.keys := by decide
  have halike := ((Alike.order (List.Perm.swap _ _ [])).trans hhistory).trans (.extra hextra hvalue)
  have hrepeats : firmware.Repeats (.object [url, extra, (some "url", .null)]) :=
    @Repeats.key firmware [] [extra] [] "url" _ _ (by decide)
  have hplain := Json.content?_eq_some_iff_isTextOf.1 (show Json.content? plainText = some _ by cbv)
  have htext := show mixedText.toList = _ by cbv
  have hcontent : Json.content? mixedText = some (.object
      [(some "\x00", .array [large, .array [.object []]]),
        (some "firmwares", .array [.object [signed, extra, url]]),
        (some "name", .string (some "a"))]) := by
    simp only [Json.content?, htext]
    rfl
  have hmixed := Json.content?_eq_some_iff_isTextOf.1 hcontent
  have htwice := Json.content?_eq_some_iff_isTextOf.1
    (show Json.content? repeatedText = some _ by cbv)
  exact ⟨hread, ((read_alike .device).1 _ _ _ _ hplain hmixed halike _).1 hread,
    (read_alike .firmware).2 _ _ htwice hrepeats⟩

end DocumentKind

end FirmwareCatalog
