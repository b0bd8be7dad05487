/-
**Bodies that are cut short.**

A catalog may leave out any field of a record, so almost every shorter text would be a record too if
only its brackets were closed.  But they are not: a text that is read ends with the bracket of its
first value, and no shorter text does.  So a body that is cut short is never taken for a smaller
catalog or for a record with less in it, whatever was asked for.

Documents are never numbers, which alone could be cut short unnoticed.

Main results:

* `DocumentKind.isClosed_of_takes` — documents are no numbers;
* `DocumentKind.read_append` — nothing but blanks may be put behind a text that is read;
* `Client.truncation_safe` — **a text that is cut short is not read**, and as the body of an answer
  it is an error.
-/
import FirmwareCatalog.Proofs.Api.Address
import FirmwareCatalog.Proofs.Api.BuildScan
import FirmwareCatalog.Proofs.Catalog.Contents

set_option relaxedAutoImplicit false
set_option autoImplicit false

namespace FirmwareCatalog

open Json (IsTextOf Takes)

namespace DocumentKind

variable {kind kind' : DocumentKind} {t w : String}

/-- Documents are arrays or objects, and no numbers. -/
theorem isClosed_of_takes {c : Json.Content} {v : kind.Content} (h : Takes kind.decoder c v) :
    c.IsClosed := by
  rintro l rfl
  obtain ⟨node, hc, hv⟩ := h
  cases node with
  | number literal =>
      rcases kind.exists_schema with ⟨items, rfl⟩ | ⟨schema, -, hdecoder, -⟩
      · cases hv
      · rw [hdecoder] at hv
        cases hv
  | _ => simp [Json.Node.content?] at hc

/-- **Nothing but blanks may be put behind a text that is read**, and they change nothing. -/
theorem read_append {v : kind.Content} (h : kind.read t = .ok v)
    (hw : ∀ d ∈ w.toList, d ∈ [' ', '\n', '\t', '\r']) : kind.read (t ++ w) = .ok v := by
  obtain ⟨c, htext, hc⟩ := exists_isTextOf h
  exact (read_iff (htext.append_blanks hw)).2 hc

theorem read_append_inv {v : kind.Content} {v' : kind'.Content} (h : kind.read t = .ok v)
    (h' : kind'.read (t ++ w) = .ok v') : ∀ d ∈ w.toList, d ∈ [' ', '\n', '\t', '\r'] := by
  obtain ⟨c, htext, hc⟩ := exists_isTextOf h
  obtain ⟨c', htext', hc'⟩ := exists_isTextOf h'
  exact (htext.append_inv htext' (isClosed_of_takes hc) (isClosed_of_takes hc')).2

end DocumentKind

namespace Client

variable {σ : Type}

/-- **A text that is cut short is not read.**  If a text is read as a document of some kind, then no
part of it that lacks more than blanks at its end is read as a document of any kind, and with
something behind it the text is read exactly if that is blank, as the same document.  As the body of
an answer with status 200, such a part is an error that shows it, whatever was asked for, and a
device that gives such an answer is passed over in the search for a build. -/
theorem truncation_safe {kind : DocumentKind} {t : String} {v : kind.Content}
    (h : kind.read t = .ok v) :
    (∀ w, ((∃ v', kind.read (t ++ w) = .ok v') ↔ ∀ d ∈ w.toList, d ∈ [' ', '\n', '\t', '\r']) ∧
      ∀ v', kind.read (t ++ w) = .ok v' → v' = v) ∧
    ∀ p r, t = p ++ r → (∃ d ∈ r.toList, d ∉ [' ', '\n', '\t', '\r']) →
      (∀ kind' : DocumentKind, ∃ reason, kind'.read p = .error reason) ∧
      ∀ (c : Client) (e : Endpoint) (s s' : Session σ), c.IsAnswered e s p s' →
        (∀ kind' : DocumentKind, ∃ reason,
          (c.get kind'.decoder e).run s = (.error (undecodable reason p.toList), s')) ∧
        ∀ identifier build, e = .device identifier → ∃ reason,
          c.scanDevice identifier build s = (.skipped (undecodable reason p.toList), s') := by
  refine ⟨fun w => ?_, ?_⟩
  · have hblank {v' : kind.Content} (hread : kind.read (t ++ w) = .ok v') :=
      DocumentKind.read_append_inv h hread
    refine ⟨⟨fun ⟨v', hv'⟩ => hblank hv', fun hw => ⟨v, DocumentKind.read_append h hw⟩⟩, ?_⟩
    intro v' hv'
    exact Except.ok.inj (hv'.symm.trans (DocumentKind.read_append h (hblank hv')))
  · rintro p r rfl ⟨d, hd, hblank⟩
    have hcut (kind' : DocumentKind) : ∃ reason, kind'.read p = .error reason :=
      DocumentKind.exists_error fun v' hv' => hblank (DocumentKind.read_append_inv hv' h d hd)
    have hget (c : Client) (e : Endpoint) (s s' : Session σ) (hanswer : c.IsAnswered e s p s')
        (kind' : DocumentKind) : ∃ reason,
          (c.get kind'.decoder e).run s = (.error (undecodable reason p.toList), s') := by
      obtain ⟨reason, hreason⟩ := hcut kind'
      exact ⟨reason, hanswer.get_error hreason⟩
    refine ⟨hcut, fun c e s s' hanswer => ⟨hget c e s s' hanswer, ?_⟩⟩
    rintro identifier build rfl
    obtain ⟨reason, hreason⟩ := hget c _ s s' hanswer .device
    exact ⟨reason, Says.scanDevice_eq (.skipped hreason)⟩

def deviceText : String := "\x7b\"name\": \"a\", \"cpid\": 1\x7d\n"

def cutText : String := "\x7b\"name\": \"a\""

theorem truncation_safe_cut :
    DocumentKind.device.read deviceText = .ok { name := "a", chip := 1 } ∧
      DocumentKind.device.read (deviceText ++ "\t ") = .ok { name := "a", chip := 1 } ∧
      ∃ reason s', Client.scanDevice (.loopback []) "m" "19A346" (.start (.saying cutText) ()) =
        (.skipped (undecodable reason cutText.toList), s') := by
  have hread : DocumentKind.device.read deviceText = .ok { name := "a", chip := 1 } := by cbv
  obtain ⟨hbehind, hcut⟩ := truncation_safe (σ := Unit) hread
  obtain ⟨⟨-, hblank⟩, hsame⟩ := hbehind "\t "
  obtain ⟨v, hv⟩ := hblank (by simp)
  obtain ⟨-, hanswers⟩ := hcut cutText ", \"cpid\": 1\x7d\n" (by decide) ⟨',', by decide, by decide⟩
  have hanswer : Client.IsAnswered (.loopback []) (.device "m") _ cutText _ :=
    isAnswered_saying (by decide) cutText
  obtain ⟨reason, hskipped⟩ := (hanswers _ _ _ _ hanswer).2 "m" "19A346" rfl
  exact ⟨hread, by rw [hv, hsame v hv], reason, _, hskipped⟩

end Client

end FirmwareCatalog
