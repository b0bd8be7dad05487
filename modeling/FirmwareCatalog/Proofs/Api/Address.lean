/-
**Where requests go.**

Every request goes to an address below the base address of the catalog: a fixed word, and one segment
for each argument.  For arguments without tabs and line ends that are neither one nor two dots, the
segment decodes to the argument, so that different questions have different addresses.

For other arguments the address stays below the base, but it is not always that of the endpoint.  One
or two dots as an argument are left out; and an argument that is two dots once its tabs and line ends
are dropped takes the segment before it away.  In the second place behind a slash-only base, this can
even lead to another endpoint.

Main definitions:

* `Endpoint.isConfined` — the arguments keep their places below the fixed word;
* `Endpoint.isPlain` — the arguments have no tabs and line ends, and are not dots.

Main results:

* `Endpoint.url_path` — the segments of an address below a base;
* `Client.url_confined` — **addresses stay below the base, and have one segment for each argument
  exactly if the arguments keep their places**;
* `Client.url_of_devices` — an address of another endpoint than the one asked for;
* `Client.url_faithful` — **plain arguments can be read off an address**, and no two questions with
  such arguments have the same one.
-/
import FirmwareCatalog.Api.Client
import FirmwareCatalog.Proofs.Url.Segments

set_option relaxedAutoImplicit false
set_option autoImplicit false

namespace FirmwareCatalog

open BaseUrl (Filled Inside encodeSegment push)

/-! ### Bases that a client accepts -/

/-- A client has the base of an address. -/
theorem Client.baseUrl?_eq_ok {text : String} {b : BaseUrl} (h : Client.baseUrl? text = .ok b) :
    ∃ u, Url.parse text = .ok u ∧ BaseUrl.ofUrl? u = some b := by
  rw [Client.baseUrl?] at h
  split at h
  case h_1 => cases h
  case h_2 u hu =>
    split at h
    case h_1 => cases h
    case h_2 b' hb =>
      cases h
      exact ⟨u, hu, hb⟩

def Client.loopback (ss : List (List Char)) : Client :=
  ⟨⟨Scheme.http, some ⟨[], [], some (.ipv6 ⟨[0, 0, 0, 0, 0, 0, 0, 1], rfl⟩), none⟩, false, ss⟩, none⟩

theorem Client.baseUrl?_loopback :
    Client.baseUrl? "http://[::1]/v4" = .ok (Client.loopback [['v', '4']]).base := by rfl

theorem Client.segments_ne_slash {text : String} {b : BaseUrl}
    (hbase : Client.baseUrl? text = .ok b) (hweb : Scheme.isWeb b.scheme = true) :
    b.segments ≠ [[]] := by
  obtain ⟨u, -, hu⟩ := Client.baseUrl?_eq_ok hbase
  obtain ⟨ss, -, rfl⟩ := BaseUrl.ofUrl?_eq_some hweb hu
  intro h
  have hlast := BaseUrl.getLast?_trimEmpty ss
  rw [show BaseUrl.trimEmpty ss = [[]] from h] at hlast
  exact hlast rfl

namespace Endpoint

/-! ### The fixed word -/

theorem forall_word {p : String → Prop} (h : ∀ w ∈ ["devices", "device", "ipsw", "releases"], p w)
    (e : Endpoint) : p e.word := by
  cases e <;> exact h _ (by simp [word])

theorem encodeSegment_word (scheme : List Char) (e : Endpoint) :
    encodeSegment scheme e.word.toList = e.word.toList := by
  have hletters : e.word.toList.all Url.isLetter = true :=
    forall_word (p := fun w => w.toList.all Url.isLetter = true) (by decide) e
  exact BaseUrl.encodeSegment_letters scheme (List.all_eq_true.1 hletters)

theorem word_ne_dots (e : Endpoint) : e.word.toList ≠ ['.'] ∧ e.word.toList ≠ ['.', '.'] :=
  forall_word (p := fun w => w.toList ≠ ['.'] ∧ w.toList ≠ ['.', '.']) (by decide) e

theorem word_ne_nil (e : Endpoint) : e.word.toList ≠ [] :=
  forall_word (p := fun w => w.toList ≠ []) (by decide) e

theorem push_word {scheme : List Char} (hfile : (scheme == Scheme.file) = false)
    (ss : List (List Char)) (e : Endpoint) :
    push scheme ss e.word.toList = (if ss = [[]] then [] else ss) ++ [e.word.toList] := by
  have hwritten : Url.isDotDot e.word.toList = false ∧ Url.isDot e.word.toList = false :=
    forall_word (p := fun w => Url.isDotDot w.toList = false ∧ Url.isDot w.toList = false)
      (by decide) e
  rw [push, if_neg (not_or.2 e.word_ne_dots), encodeSegment_word, Url.place, hfile, hwritten.1,
    hwritten.2]
  rfl

theorem filled_word (root : List (List Char)) (e : Endpoint) : Filled (root ++ [e.word.toList]) :=
  ⟨e.word.toList, List.mem_append_right root (List.mem_singleton.2 rfl), e.word_ne_nil⟩

/-- **The segments of an address below a base**: those of the base, the fixed word, and what the
arguments add. -/
theorem url_path {b : BaseUrl} (hfile : (b.scheme == Scheme.file) = false)
    (hslash : b.segments ≠ [[]]) (e : Endpoint) :
    (e.url b).path =
      .segments ((e.arguments.map String.toList).foldl (push b.scheme)
        (b.segments ++ [e.word.toList])) := by
  have hstart : push b.scheme (if b.segments.isEmpty then [[]] else b.segments) e.word.toList =
      b.segments ++ [e.word.toList] := by
    rw [push_word hfile]
    cases hsegments : b.segments with
    | nil => rfl
    | cons s ss =>
        rw [hsegments] at hslash
        simp [hslash]
  rw [url, BaseUrl.below, segments, List.map_cons, List.foldl_cons, hstart]
  rfl

/-! ### Any arguments -/

/-- Each argument keeps its place behind the one before it, the first one behind the fixed word. -/
def isConfined (e : Endpoint) : Bool :=
  BaseUrl.keepPlaces e.word.toList (e.arguments.map String.toList)

end Endpoint

/-- **Addresses stay below the base, and have one segment for each argument behind the fixed word
exactly if the arguments keep their places.** -/
theorem Client.url_confined {text : String} {c : Client}
    (hbase : Client.baseUrl? text = .ok c.base) (hweb : Scheme.isWeb c.base.scheme = true)
    (e : Endpoint) :
    (∃ ss, (c.url e).path = .segments ss ∧ Inside c.base.segments ss) ∧
      ((∃ xs, xs.length = e.arguments.length ∧
          (c.url e).path = .segments (c.base.segments ++ e.word.toList :: xs)) ↔
        e.isConfined = true) := by
  have hfile := Scheme.beq_file_of_isWeb hweb
  have hpath := e.url_path hfile (Client.segments_ne_slash hbase hweb)
  have hfilled := e.filled_word c.base.segments
  rw [Client.url, hpath]
  constructor
  · have hinside : Inside c.base.segments (c.base.segments ++ [e.word.toList]) :=
      ⟨[e.word.toList], by simp, rfl⟩
    exact ⟨_, rfl, BaseUrl.foldl_push_inside hfile hinside _⟩
  · have hlast : (c.base.segments ++ [e.word.toList]).getLast?.any Url.isDrive =
        Url.isDrive (Url.withoutLayout e.word.toList) := by
      rw [List.getLast?_concat, Option.any_some]
      exact Endpoint.forall_word
        (p := fun w => Url.isDrive w.toList = Url.isDrive (Url.withoutLayout w.toList))
        (by decide) e
    have hiff := BaseUrl.foldl_push_eq_append_iff hfile hfilled hlast
      (e.arguments.map String.toList)
    rw [List.length_map] at hiff
    rw [Endpoint.isConfined, ← hiff]
    simp only [UrlPath.segments.injEq, List.append_assoc, List.singleton_append]

/-- The path of a firmware whose build is two dots and a tab behind the name of a drive is confined,
and that of a device of two dots and a tab is not. -/
theorem Client.url_confined_drive :
    ∃ c : Client, Client.baseUrl? "http://[::1]/v4" = .ok c.base ∧
      Scheme.isWeb c.base.scheme = true ∧
      (∃ xs, xs.length = 2 ∧ (c.url (.firmware "c:" "..\t")).path =
        .segments (c.base.segments ++ "ipsw".toList :: xs)) ∧
      ¬ ∃ xs, xs.length = 1 ∧ (c.url (.device "..\t")).path =
        .segments (c.base.segments ++ "device".toList :: xs) := by
  refine ⟨.loopback [['v', '4']], Client.baseUrl?_loopback, rfl, ?_, ?_⟩
  · exact (Client.url_confined Client.baseUrl?_loopback rfl (.firmware "c:" "..\t")).2.2 (by decide)
  · intro h
    have hconfined := (Client.url_confined Client.baseUrl?_loopback rfl (.device "..\t")).2.1 h
    exact absurd hconfined (by decide)

/-- Below the root of a server, the firmware `devices` of a model whose name is two dots and a tab
is asked for at the address of all devices. -/
theorem Client.url_of_devices :
    ∃ c : Client, Client.baseUrl? "http://[::1]" = .ok c.base ∧
      Scheme.isWeb c.base.scheme = true ∧
      c.url (.firmware "..\t" "devices") = c.url .devices ∧
      ¬ ∃ xs, xs.length = 2 ∧ (c.url (.firmware "..\t" "devices")).path =
        .segments (c.base.segments ++ "ipsw".toList :: xs) := by
  refine ⟨.loopback [], rfl, rfl, by decide, ?_⟩
  rintro ⟨xs, -, hpath⟩
  cases hpath

/-! ### Plain arguments -/

namespace Endpoint

/-- No argument is one or two dots, or has tabs and line ends. -/
def isPlain (e : Endpoint) : Bool :=
  (e.arguments.map String.toList).all fun s => !BaseUrl.isLeftOut s && !s.any Url.isLayout

theorem layout_of_isPlain {e : Endpoint} (h : e.isPlain = true) :
    ∀ s ∈ e.arguments.map String.toList, ∀ c ∈ s, Url.isLayout c = false := by
  intro s hs c hc
  have hplain := List.all_eq_true.1 h s hs
  rw [Bool.and_eq_true, Bool.not_eq_true', Bool.not_eq_true', List.any_eq_false] at hplain
  exact Bool.eq_false_iff.2 (hplain.2 c hc)

theorem dots_of_isPlain {e : Endpoint} (h : e.isPlain = true) :
    ∀ s ∈ e.arguments.map String.toList, s ≠ ['.'] ∧ s ≠ ['.', '.'] := by
  intro s hs
  have hplain := List.all_eq_true.1 h s hs
  rw [Bool.and_eq_true, Bool.not_eq_true', BaseUrl.isLeftOut_eq_false_iff] at hplain
  exact hplain.1

def written (e : Endpoint) (scheme : List Char) : List (List Char) :=
  e.arguments.map fun a => encodeSegment scheme a.toList

theorem url_path_of_isPlain {b : BaseUrl} (hfile : (b.scheme == Scheme.file) = false)
    (hslash : b.segments ≠ [[]]) {e : Endpoint} (h : e.isPlain = true) :
    (e.url b).path = .segments (b.segments ++ e.word.toList :: e.written b.scheme) := by
  rw [e.url_path hfile hslash, BaseUrl.foldl_push_plain hfile (e.filled_word b.segments)
    (dots_of_isPlain h) (layout_of_isPlain h), List.map_map, List.append_assoc]
  rfl

/-- The text of an address with plain arguments. -/
theorem url_render_of_isPlain {b : BaseUrl} (hfile : (b.scheme == Scheme.file) = false)
    (hslash : b.segments ≠ [[]]) {e : Endpoint} (h : e.isPlain = true) :
    (e.url b).renderChars = b.toUrl.renderChars ++ e.word.toList ++
      (UrlPath.segments (e.written b.scheme)).render := by
  have hpath := url_path_of_isPlain hfile hslash h
  have hurl : e.url b = b.withSegments (b.segments ++ e.word.toList :: e.written b.scheme) := by
    rw [url, BaseUrl.below] at hpath ⊢
    exact congrArg b.withSegments (UrlPath.segments.inj hpath)
  have hjoin : (UrlPath.segments (b.segments ++ e.word.toList :: e.written b.scheme)).render =
      (UrlPath.segments (b.segments ++ [[]])).render ++ e.word.toList ++
        (UrlPath.segments (e.written b.scheme)).render := by
    simp [UrlPath.render]
  rw [hurl, BaseUrl.toUrl, BaseUrl.renderChars_withSegments, BaseUrl.renderChars_withSegments, hjoin]
  simp only [List.append_assoc]

theorem decode_written {e : Endpoint} (h : e.isPlain = true) (scheme : List Char) :
    (e.written scheme).map Percent.decode = e.arguments.map fun a => Utf8.encode a.toList := by
  rw [written, List.map_map, List.map_inj_left]
  intro a ha
  have hself := Url.withoutLayout_eq_self (layout_of_isPlain h a.toList (List.mem_map_of_mem ha))
  rw [Function.comp_apply, BaseUrl.decode_encodeSegment, hself]

theorem eq_of_word_arguments {e e' : Endpoint} (hword : e.word = e'.word)
    (hargs : e.arguments = e'.arguments) : e = e' := by
  cases e <;> cases e' <;> simp_all [word, arguments]

theorem eq_of_written {e e' : Endpoint} (h : e.isPlain = true) (h' : e'.isPlain = true)
    {scheme : List Char}
    (heq : e.word.toList :: e.written scheme = e'.word.toList :: e'.written scheme) : e = e' := by
  obtain ⟨hword, hwritten⟩ := List.cons.inj heq
  refine eq_of_word_arguments (String.toList_inj.1 hword) ?_
  have hbytes := decode_written h scheme
  rw [hwritten, decode_written h' scheme] at hbytes
  refine (List.map_inj_right ?_).1 hbytes.symm
  intro a a' ha
  exact String.toList_inj.1 (Utf8.encode_injective ha)

theorem slash_not_mem_written {scheme : List Char} (hspecial : Scheme.isSpecial scheme = true)
    (e : Endpoint) : ∀ s ∈ e.word.toList :: e.written scheme, '/' ∉ s := by
  intro s hs
  rcases List.mem_cons.1 hs with rfl | hs
  · exact forall_word (p := fun w => '/' ∉ w.toList) (by decide) e
  · obtain ⟨a, -, rfl⟩ := List.mem_map.1 hs
    intro hslash
    exact (BaseUrl.plain_of_mem_encodeSegment hspecial hslash).2 (by decide)

end Endpoint

/-- **Plain arguments can be read off an address.**  It is the base followed by the fixed word and
one segment for each argument; such a segment is ASCII, separates nothing, and decodes to the bytes
of its argument.  Two different questions with plain arguments never have the same address. -/
theorem Client.url_faithful {text : String} {c : Client}
    (hbase : Client.baseUrl? text = .ok c.base) (hweb : Scheme.isWeb c.base.scheme = true) :
    (∀ e : Endpoint, e.isPlain = true →
      ∃ xs, (c.url e).path = .segments (c.base.segments ++ e.word.toList :: xs) ∧
        (c.url e).render = c.base.render ++ e.word ++ String.ofList (UrlPath.segments xs).render ∧
        xs.map Percent.decode = (e.arguments.map fun a => Utf8.encode a.toList) ∧
        ∀ x ∈ xs, ∀ ch ∈ x, ch.toNat < 128 ∧ ch ∉ ['/', '?', '#', '\\']) ∧
      ∀ e e' : Endpoint, e.isPlain = true → e'.isPlain = true →
        (c.url e).render = (c.url e').render → e = e' := by
  have hfile := Scheme.beq_file_of_isWeb hweb
  have hslash := Client.segments_ne_slash hbase hweb
  have hspecial := Scheme.isSpecial_of_isWeb hweb
  constructor
  · intro e he
    refine ⟨e.written c.base.scheme, Endpoint.url_path_of_isPlain hfile hslash he, ?_,
      Endpoint.decode_written he _, ?_⟩
    · rw [Client.url, Url.render, Endpoint.url_render_of_isPlain hfile hslash he,
        String.ofList_append, String.ofList_append, String.ofList_toList]
      rfl
    · intro x hx ch hch
      obtain ⟨a, -, rfl⟩ := List.mem_map.1 hx
      exact BaseUrl.plain_of_mem_encodeSegment hspecial hch
  · intro e e' he he' heq
    have hchars : (c.url e).renderChars = (c.url e').renderChars := String.ofList_injective heq
    rw [Client.url, Client.url, Endpoint.url_render_of_isPlain hfile hslash he,
      Endpoint.url_render_of_isPlain hfile hslash he', List.append_assoc, List.append_assoc] at hchars
    have hpath := congrArg ('/' :: ·) (List.append_cancel_left hchars)
    exact Endpoint.eq_of_written he he' (UrlPath.segments_injective
      (e.slash_not_mem_written hspecial) (e'.slash_not_mem_written hspecial) hpath)

/-- A percent sign and its encoding in the name of a device are told apart. -/
theorem Client.url_faithful_percent :
    ∃ c : Client, Client.baseUrl? "http://[::1]/v4" = .ok c.base ∧
      Scheme.isWeb c.base.scheme = true ∧
      (c.url (.device "%2F/é")).render ≠ (c.url (.device "//é")).render := by
  refine ⟨.loopback [['v', '4']], Client.baseUrl?_loopback, rfl, fun h => ?_⟩
  have heq := (Client.url_faithful Client.baseUrl?_loopback rfl).2 _ _ (by decide) (by decide) h
  exact absurd heq (by decide)

end FirmwareCatalog
