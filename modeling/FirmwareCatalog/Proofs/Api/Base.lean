/-
**Bases in normal form.**

The base that a client makes of an address of the web is that address in a normal form: with its
scheme, user, host and port, without query and fragment, and with a path that ends in one slash.
The path is written anew, so what is left of it without the slashes at its end has to be read as it
stands; and so has the text of the whole base, if its base is to be the same again.

Slashes at the end of a path are empty segments at the end.  Whether two addresses differ in nothing
else can therefore be seen by their segments: filled up with empty ones they are the same.

Main definitions:

* `Url.SameButEnd` — addresses that differ at most in slashes at the end of the path, in the query
  and in the fragment;
* `BaseUrl.IsNormalOf` — a base that is the normal form of an address.

Main results:

* `BaseUrl.trimEmpty_eq_of_render` — paths that differ in slashes at the end have the same segments
  before those;
* `Client.baseUrl?_eq_of_sameButEnd` — **addresses that are the same but for the end have one
  base**;
* `Client.baseUrl?_normal` — **the base is a normal form**, and it decides which requests are sent.
-/
import FirmwareCatalog.Proofs.Api.Origin
import FirmwareCatalog.Proofs.Url.Reread
import Mathlib.Data.List.DropRight

set_option relaxedAutoImplicit false
set_option autoImplicit false

namespace FirmwareCatalog

variable {σ : Type}

/-- The addresses differ at most in slashes at the end of the path, in the query and in the
fragment. -/
structure Url.SameButEnd (u u' : Url) : Prop where
  scheme : u.scheme = u'.scheme
  authority : u.authority = u'.authority
  path : ∃ p m n, u.pathText = p ++ List.replicate m '/' ∧ u'.pathText = p ++ List.replicate n '/'

/-- The base is the normal form of an address.  It has the same scheme, user, host and port, neither
query nor fragment, and a path that ends in one slash: the path of the address up to slashes at the
end, and also what is read when that path is set anew. -/
structure BaseUrl.IsNormalOf (b : BaseUrl) (u : Url) : Prop where
  scheme : b.toUrl.scheme = u.scheme
  authority : b.toUrl.authority = u.authority
  query : b.toUrl.query = none
  fragment : b.toUrl.fragment = none
  path : ∃ p n, p.getLast? ≠ some '/' ∧ u.pathText = p ++ List.replicate n '/' ∧
    b.toUrl.pathText = p ++ ['/'] ∧
    b.toUrl.path = .segments (Url.segmentsAfterHost u.scheme (p ++ ['/']))

/-! ### Slashes at the end -/

theorem UrlPath.render_append_replicate (ss : List (List Char)) (n : Nat) :
    (segments (ss ++ List.replicate n [])).render =
      (segments ss).render ++ List.replicate n '/' := by
  rw [render, List.flatMap_append]
  refine congrArg ((segments ss).render ++ ·) ?_
  induction n with
  | zero => rfl
  | succ n ih => rw [List.replicate_succ, List.flatMap_cons, ih]; rfl

/-- A path whose last segment is not empty has no slash at the end. -/
theorem UrlPath.getLast?_render {ss : List (List Char)} (h : ∀ s ∈ ss, '/' ∉ s)
    (hlast : ss.getLast? ≠ some []) : (segments ss).render.getLast? ≠ some '/' := by
  rcases List.eq_nil_or_concat ss with rfl | ⟨front, s, rfl⟩
  · intro h
    cases h
  · rw [List.concat_eq_append] at h hlast ⊢
    have hs : s ≠ [] := by simpa using hlast
    have htext : (segments (front ++ [s])).render = (segments front).render ++ ['/'] ++ s := by
      simp [render]
    rw [htext, List.getLast?_append_of_ne_nil _ hs]
    intro hslash
    exact h s (by simp) (List.mem_of_getLast? hslash)

namespace BaseUrl

theorem trimEmpty_eq_rdropWhile (ss : List (List Char)) :
    trimEmpty ss = ss.rdropWhile List.isEmpty := rfl

theorem exists_eq_trimEmpty_append (ss : List (List Char)) :
    ∃ n, ss = trimEmpty ss ++ List.replicate n [] := by
  have hempty : ss.rtakeWhile List.isEmpty =
      List.replicate (ss.rtakeWhile List.isEmpty).length [] := by
    rw [List.eq_replicate_length]
    intro s hs
    exact List.isEmpty_iff.1 (List.mem_rtakeWhile_imp hs)
  refine ⟨(ss.rtakeWhile List.isEmpty).length, ?_⟩
  rw [← hempty]
  exact List.rdropWhile_append_rtakeWhile.symm

theorem trimEmpty_append_replicate (ss : List (List Char)) (n : Nat) :
    trimEmpty (ss ++ List.replicate n []) = trimEmpty ss := by
  induction n with
  | zero => rw [List.replicate_zero, List.append_nil]
  | succ n ih =>
      rw [List.replicate_succ', ← List.append_assoc, trimEmpty_eq_rdropWhile,
        List.rdropWhile_concat_pos _ _ _ rfl]
      exact ih

theorem mem_of_mem_trimEmpty {ss : List (List Char)} {s : List Char} (h : s ∈ trimEmpty ss) :
    s ∈ ss :=
  (List.rdropWhile_prefix _ ss).subset h

/-- **Paths that differ in slashes at the end have the same segments before those.** -/
theorem trimEmpty_eq_of_render {ss ts : List (List Char)} (hss : ∀ s ∈ ss, '/' ∉ s)
    (hts : ∀ t ∈ ts, '/' ∉ t) {p : List Char} {m n : Nat}
    (hp : (UrlPath.segments ss).render = p ++ List.replicate m '/')
    (hp' : (UrlPath.segments ts).render = p ++ List.replicate n '/') :
    trimEmpty ss = trimEmpty ts := by
  -- Filled up with the slashes of each other, both paths have the same text.
  have hplain {ss : List (List Char)} (h : ∀ s ∈ ss, '/' ∉ s) (n : Nat) :
      ∀ s ∈ ss ++ List.replicate n [], '/' ∉ s := by
    intro s hs
    rcases List.mem_append.1 hs with hs | hs
    · exact h s hs
    · rw [List.eq_of_mem_replicate hs]
      exact List.not_mem_nil
  have hfilled : ss ++ List.replicate n [] = ts ++ List.replicate m [] := by
    refine UrlPath.segments_injective (hplain hss n) (hplain hts m) ?_
    rw [UrlPath.render_append_replicate, UrlPath.render_append_replicate, hp, hp',
      List.append_assoc, List.append_assoc, List.replicate_append_replicate,
      List.replicate_append_replicate, Nat.add_comm]
  rw [← trimEmpty_append_replicate ss n, hfilled, trimEmpty_append_replicate]

end BaseUrl

/-! ### Bases and their addresses -/

namespace Client

theorem baseUrl?_of_isWeb {text : String} {u : Url} (hu : Url.parse text = .ok u)
    (hweb : Scheme.isWeb u.scheme = true) {ss : List (List Char)} (hpath : u.path = .segments ss) :
    baseUrl? text = .ok ⟨u.scheme, u.authority, u.setOff, BaseUrl.trimEmpty ss⟩ := by
  simp only [baseUrl?, hu, BaseUrl.ofUrl?, hpath, BaseUrl.nameDrive_of_isWeb hweb]

theorem scheme_of_baseUrl? {text : String} {u : Url} {b : BaseUrl} (hu : Url.parse text = .ok u)
    (hbase : baseUrl? text = .ok b) : b.scheme = u.scheme := by
  obtain ⟨u', hu', hofUrl⟩ := baseUrl?_eq_ok hbase
  obtain rfl := Except.ok.inj (hu.symm.trans hu')
  rw [BaseUrl.ofUrl?] at hofUrl
  split at hofUrl
  case h_1 => cases hofUrl
  case h_2 =>
    cases hofUrl
    rfl

/-- **Addresses of the web that are the same but for the end have one base.** -/
theorem baseUrl?_eq_of_sameButEnd {text text' : String} {u u' : Url} (hu : Url.parse text = .ok u)
    (hu' : Url.parse text' = .ok u') (hsame : u.SameButEnd u')
    (hweb : Scheme.isWeb u.scheme = true) :
    ∃ b, baseUrl? text = .ok b ∧ baseUrl? text' = .ok b := by
  have hweb' : Scheme.isWeb u'.scheme = true := hsame.scheme ▸ hweb
  obtain ⟨a, ss, -, -, hsetOff, hpath, hwritten⟩ := Url.parse_isRead hu hweb
  obtain ⟨a', ss', -, -, hsetOff', hpath', hwritten'⟩ := Url.parse_isRead hu' hweb'
  obtain ⟨p, m, n, hp, hp'⟩ := hsame.path
  rw [Url.pathText, hpath] at hp
  rw [Url.pathText, hpath'] at hp'
  have htrim := BaseUrl.trimEmpty_eq_of_render (fun s hs => (hwritten s hs).slash_not_mem)
    (fun s hs => (hwritten' s hs).slash_not_mem) hp hp'
  refine ⟨_, baseUrl?_of_isWeb hu hweb hpath, ?_⟩
  rw [baseUrl?_of_isWeb hu' hweb' hpath', hsame.scheme, hsame.authority, hsetOff, hsetOff', htrim]

/-- **The base of an address of the web is its normal form.** -/
theorem isNormalOf_of_baseUrl? {text : String} {b : BaseUrl} (hbase : baseUrl? text = .ok b)
    (hweb : Scheme.isWeb b.scheme = true) : ∃ u, Url.parse text = .ok u ∧ b.IsNormalOf u := by
  obtain ⟨u, hu, hofUrl⟩ := baseUrl?_eq_ok hbase
  have hscheme := scheme_of_baseUrl? hu hbase
  rw [hscheme] at hweb
  obtain ⟨a, ss, -, -, -, hpath, hwritten⟩ := Url.parse_isRead hu hweb
  obtain rfl := Except.ok.inj ((baseUrl?_of_isWeb hu hweb hpath).symm.trans hbase)
  obtain ⟨n, hn⟩ := BaseUrl.exists_eq_trimEmpty_append ss
  have hkept : ∀ s ∈ BaseUrl.trimEmpty ss, Url.IsWritten s := fun s hs =>
    hwritten s (BaseUrl.mem_of_mem_trimEmpty hs)
  have htext : (UrlPath.segments (BaseUrl.trimEmpty ss ++ [[]])).render =
      (UrlPath.segments (BaseUrl.trimEmpty ss)).render ++ ['/'] :=
    UrlPath.render_append_replicate (BaseUrl.trimEmpty ss) 1
  refine ⟨u, hu, rfl, rfl, rfl, rfl, (UrlPath.segments (BaseUrl.trimEmpty ss)).render, n, ?_, ?_,
    htext, ?_⟩
  · exact UrlPath.getLast?_render (fun s hs => (hkept s hs).slash_not_mem)
      (BaseUrl.getLast?_trimEmpty ss)
  · rw [Url.pathText, hpath, ← UrlPath.render_append_replicate, ← hn]
  · rw [← htext, Url.segmentsAfterHost_render hweb (by simp) (Url.isWritten_append_nil hkept)]
    rfl

/-- **The text of a base has the same base again.** -/
theorem baseUrl?_render {text : String} {b : BaseUrl} (hbase : baseUrl? text = .ok b)
    (hweb : Scheme.isWeb b.scheme = true) : baseUrl? b.render = .ok b := by
  obtain ⟨u, hu, -⟩ := baseUrl?_eq_ok hbase
  rw [scheme_of_baseUrl? hu hbase] at hweb
  obtain ⟨a, ss, ha, hread, hsetOff, hpath, hwritten⟩ := Url.parse_isRead hu hweb
  obtain rfl := Except.ok.inj ((baseUrl?_of_isWeb hu hweb hpath).symm.trans hbase)
  have hkept : ∀ s ∈ BaseUrl.trimEmpty ss, Url.IsWritten s := fun s hs =>
    hwritten s (BaseUrl.mem_of_mem_trimEmpty hs)
  have htrim : BaseUrl.trimEmpty (BaseUrl.trimEmpty ss ++ [[]]) = BaseUrl.trimEmpty ss := by
    have hkeep := BaseUrl.trimEmpty_append_replicate (BaseUrl.trimEmpty ss) 1
    rw [List.replicate_one] at hkeep
    rw [hkeep]
    exact List.rdropWhile_idempotent _ ss
  have hchars := Url.parseChars_render hweb hread (by simp) (Url.isWritten_append_nil hkept)
  have hparse : Url.parse (BaseUrl.render ⟨u.scheme, some a, false, BaseUrl.trimEmpty ss⟩) =
      .ok ⟨u.scheme, some a, false, .segments (BaseUrl.trimEmpty ss ++ [[]]), none, none⟩ := by
    rw [Url.parse, BaseUrl.render, Url.render, String.toList_ofList]
    exact hchars
  rw [ha, hsetOff, baseUrl?_of_isWeb hparse hweb rfl, htrim]

/-! ### Requests -/

theorem requests_of_not_isWeb {c : Client} (h : Scheme.isWeb c.base.scheme = false)
    (es : List Endpoint) : c.requests es = [] := by
  have hnone (e : Endpoint) : (c.request e).isSendable = false := by
    have hweb : (c.request e).url.isWeb = false := by
      rw [request, Request.url_ofUrl]
      split <;> exact h
    rw [Request.isSendable, Url.isRequestable, hweb, Bool.false_and, Bool.false_and]
  simp [requests, hnone]

/-- **Clients of addresses that are the same but for the end send the same requests.** -/
theorem sends_same {text text' : String} {u u' : Url} (hu : Url.parse text = .ok u)
    (hu' : Url.parse text' = .ok u') (hsame : u.SameButEnd u') {c c' : Client}
    (hbase : baseUrl? text = .ok c.base) (hbase' : baseUrl? text' = .ok c'.base)
    (hagent : c.userAgent = c'.userAgent) :
    (∀ (q : Question) (s : Session σ), ((c.ask q).run s).2 = ((c'.ask q).run s).2) ∧
      ∀ (identifier build : String) (s : Session σ),
        (c.scanDevice identifier build s).2 = (c'.scanDevice identifier build s).2 := by
  cases hweb : Scheme.isWeb u.scheme with
  | true =>
      obtain ⟨b, hb, hb'⟩ := baseUrl?_eq_of_sameButEnd hu hu' hsame hweb
      have hclient : c = c' := by
        obtain ⟨base, agent⟩ := c
        obtain ⟨base', agent'⟩ := c'
        obtain rfl := Except.ok.inj (hbase.symm.trans hb)
        obtain rfl := Except.ok.inj (hbase'.symm.trans hb')
        rw [Client.mk.injEq]
        exact ⟨rfl, hagent⟩
      subst hclient
      exact ⟨fun _ _ => rfl, fun _ _ _ => rfl⟩
  | false =>
      -- Neither of the two sends anything, whatever their bases are.
      have hnone : ∀ es, c.requests es = [] :=
        requests_of_not_isWeb (by rw [scheme_of_baseUrl? hu hbase, hweb])
      have hnone' : ∀ es, c'.requests es = [] :=
        requests_of_not_isWeb (by rw [scheme_of_baseUrl? hu' hbase', ← hsame.scheme, hweb])
      constructor
      · intro q s
        obtain ⟨es, hes⟩ := c.ask_after q s
        obtain ⟨es', hes'⟩ := c'.ask_after q s
        rw [hes, hes', hnone, hnone']
      · intro identifier build s
        obtain ⟨es, hes⟩ := c.scanDevice_after identifier build s
        obtain ⟨es', hes'⟩ := c'.scanDevice_after identifier build s
        rw [hes, hes', hnone, hnone']

/-- **The base of an address of the web is a normal form.**  It has scheme, user, host and port of
the address, neither query nor fragment, and the path of the address, but with one slash at the end;
and the base of its text is the same base.  Addresses that differ at most in slashes at the end of
the path, query and fragment have one base if they are of the web; and whatever they are, their
clients send the same requests for all questions and for all devices of the search for a build. -/
theorem baseUrl?_normal :
    (∀ (text : String) (b : BaseUrl), baseUrl? text = .ok b → Scheme.isWeb b.scheme = true →
      (∃ u, Url.parse text = .ok u ∧ b.IsNormalOf u) ∧ baseUrl? b.render = .ok b) ∧
    ∀ (text text' : String) (u u' : Url), Url.parse text = .ok u → Url.parse text' = .ok u' →
      u.SameButEnd u' →
        (Scheme.isWeb u.scheme = true → ∃ b, baseUrl? text = .ok b ∧ baseUrl? text' = .ok b) ∧
        ∀ c c' : Client, baseUrl? text = .ok c.base → baseUrl? text' = .ok c'.base →
          c.userAgent = c'.userAgent →
            (∀ (q : Question) (s : Session σ), ((c.ask q).run s).2 = ((c'.ask q).run s).2) ∧
              ∀ (identifier build : String) (s : Session σ),
                (c.scanDevice identifier build s).2 = (c'.scanDevice identifier build s).2 := by
  constructor
  · intro text b hbase hweb
    exact ⟨isNormalOf_of_baseUrl? hbase hweb, baseUrl?_render hbase hweb⟩
  · intro text text' u u' hu hu' hsame
    refine ⟨baseUrl?_eq_of_sameButEnd hu hu' hsame, ?_⟩
    intro c c' hbase hbase' hagent
    exact sends_same hu hu' hsame hbase hbase' hagent

/-- Dots, the default port, slashes at the end, query and fragment make no difference, and what
looks like a drive or stands for a digit stays in the path as it is. -/
theorem baseUrl?_normal_dots :
    ∃ c c' : Client, baseUrl? "http://[::1]:80/a/%2e%2E/C|/v%34//?q#f" = .ok c.base ∧
      baseUrl? "HTTP://[::1]/C|/v%34" = .ok c'.base ∧ c.base.render = "http://[::1]/C|/v%34/" ∧
      baseUrl? c.base.render = .ok c.base ∧
      ∀ s : Session Unit, ((c.ask .releases).run s).2 = ((c'.ask .releases).run s).2 := by
  let a : Authority := ⟨[], [], some (.ipv6 ⟨[0, 0, 0, 0, 0, 0, 0, 1], rfl⟩), none⟩
  let ss : List (List Char) := ["C|".toList, "v%34".toList]
  have hparse : Url.parse "http://[::1]:80/a/%2e%2E/C|/v%34//?q#f" =
      .ok ⟨Scheme.http, some a, false, .segments (ss ++ [[], []]), some ['q'], some ['f']⟩ := by rfl
  have hparse' : Url.parse "HTTP://[::1]/C|/v%34" =
      .ok ⟨Scheme.http, some a, false, .segments ss, none, none⟩ := by rfl
  have hbase := baseUrl?_of_isWeb hparse rfl rfl
  have hbase' := baseUrl?_of_isWeb hparse' rfl rfl
  obtain ⟨hnormal, hsame⟩ := baseUrl?_normal (σ := Unit)
  obtain ⟨-, hrender⟩ := hnormal _ _ hbase rfl
  obtain ⟨-, hsends⟩ := hsame _ _ _ _ hparse hparse'
    ⟨rfl, rfl, "/C|/v%34".toList, 2, 0, by decide, by decide⟩
  refine ⟨⟨_, none⟩, ⟨_, none⟩, hbase, hbase', by decide, hrender, ?_⟩
  exact (hsends ⟨_, none⟩ ⟨_, none⟩ hbase hbase' rfl).1 .releases

end Client

end FirmwareCatalog
