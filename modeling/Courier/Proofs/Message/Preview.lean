import Courier.Message.Notification
import Courier.Proofs.Text.Pieces

/-!
# Previews

The body of a notification shows the front of a message as text. Main statement: whatever the bytes
of the message are, the body shows the first 64 of the pieces that they are taken apart into, each
as one character, and an ellipsis behind them exactly if there are more. If the bytes are a text,
the pieces are its characters.
-/

namespace Courier

/-- The character that stands for a piece: an ill-formed part is shown as U+FFFD. -/
def Utf8.Piece.shown : Utf8.Piece → Char
  | .char c => c
  | .illFormed _ => '\uFFFD'

namespace Notification

variable {e : Event} {s : String}

theorem toList_ofUtf8Lossy (bs : List UInt8) :
    (ofUtf8Lossy bs).toList = (Utf8.decode bs).map Utf8.Piece.shown := by
  rw [ofUtf8Lossy, String.toList_ofList, Utf8.decodeLossy]
  apply List.map_congr_left
  rintro (c | part) -
  · rfl
  · rfl

theorem ofUtf8Lossy_utf8 (s : String) : ofUtf8Lossy (utf8 s) = s := by
  apply String.toList_injective
  rw [toList_ofUtf8Lossy, utf8, Utf8.decode_encode, List.map_map]
  exact List.map_id _

/-- Whether a body shows characters: all of them if they are no more than 64, and else the first 64
and an ellipsis. So it has 65 characters at most, and that many exactly if there are more than it
shows. -/
structure IsPreview (cs : List Char) (body : String) : Prop where
  whole : cs.length ≤ 64 → body.toList = cs
  cut : 64 < cs.length → body.toList = cs.take 64 ++ ['…']
  length_le : body.length ≤ 65
  length_eq_iff : body.length = 65 ↔ 64 < cs.length

theorem isPreview_preview (s : String) : IsPreview s.toList (preview s) := by
  rw [preview, previewLength, ← String.length_toList]
  by_cases h : 64 < s.toList.length
  · have hb : (String.ofList (s.toList.take 64) ++ "…").toList = s.toList.take 64 ++ ['…'] := by
      simp
    have hl : (String.ofList (s.toList.take 64) ++ "…").length = 65 := by
      rw [← String.length_toList, hb]
      simp only [List.length_append, List.length_take, List.length_singleton]
      omega
    rw [if_pos h]
    exact ⟨fun hn => absurd h (Nat.not_lt.2 hn), fun _ => hb, Nat.le_of_eq hl, fun _ => h,
      fun _ => hl⟩
  · rw [if_neg h]
    have hl := String.length_toList (s := s)
    exact ⟨fun _ => rfl, fun hn => absurd hn h, by omega, by omega⟩

/-- The body of a notification shows the pieces of the bytes of a message, which can be taken apart
in one way, and the characters of a text if the bytes are that text. -/
theorem isPreview_body (e : Event) :
    (∀ s, e.payload = utf8 s → IsPreview s.toList (ofEvent e).body) ∧
      ∃ ps, (∀ qs, Utf8.Splits e.payload qs ↔ qs = ps) ∧
        IsPreview (ps.map Utf8.Piece.shown) (ofEvent e).body := by
  refine ⟨fun s hs => ?_, Utf8.decode e.payload, fun qs => Utf8.splits_iff, ?_⟩
  · have hb : (ofEvent e).body = preview s := by rw [ofEvent, hs, ofUtf8Lossy_utf8]
    exact hb ▸ isPreview_preview s
  · rw [← toList_ofUtf8Lossy]
    exact isPreview_preview (ofUtf8Lossy e.payload)

/-- Of a text of 65 characters that take two bytes each, the body shows 64. -/
theorem isPreview_body_of_long :
    let s := String.ofList (List.replicate 65 'ü')
    let e : Event := ⟨"", "a", none, .direct "b", utf8 s, false, 0⟩
    e.payload = utf8 s ∧ (ofEvent e).body.toList = List.replicate 64 'ü' ++ ['…'] := by
  intro s e
  have given : e.payload = utf8 s := by simp only [e]
  have long : 64 < s.toList.length := by simp [s]
  have preview := (isPreview_body e).1 s given
  exact ⟨given, (preview.cut long).trans (by simp [s])⟩

end Notification

end Courier
