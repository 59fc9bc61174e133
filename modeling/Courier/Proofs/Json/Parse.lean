import Courier.Json.Record
import Courier.Proofs.Json.Scan
import Courier.Proofs.Text.Utf8

/-!
# Written texts are read back

The tokens of a whole value lead the machine from the expectation of a value to the delivery of that
value, whatever containers are open around it. Together with scanning and decoding this gives the
main statement: a document made of the bytes of a whole value holds that value and nothing else.
-/

namespace Courier.Json

/-- How the machine goes on from a situation with further tokens. -/
def Progress.resume : Progress → List Token → Json × List Token
  | .done v, ts => (v, ts)
  | .more expect frames, ts => ofTokens expect frames ts

theorem ofTokens_cons (expect : Expect) (frames : List Frame) (t : Token) (ts : List Token) :
    ofTokens expect frames (t :: ts) = (Progress.step expect frames t).resume ts := by
  rw [ofTokens]
  cases Progress.step expect frames t <;> rfl

/-- The tokens of a value bring about its delivery. -/
def IsParsed (v : Json) : Prop :=
  ∀ frames ts, ofTokens .value frames (tokens v ++ ts) = (Progress.deliver v frames).resume ts

theorem Whole.isSkippable {v : Json} (h : Whole v) : v.isSkippable = true := by
  cases h <;> rfl

/-- The first token of a whole value closes nothing. -/
theorem Whole.tokens_ne_close {v : Json} (h : Whole v) :
    ∃ t ts, tokens v = t :: ts ∧ t ≠ .closeArray := by
  cases h with
  | null => exact ⟨_, _, rfl, by simp⟩
  | bool b => exact ⟨_, _, rfl, by simp⟩
  | num negative n => exact ⟨_, _, rfl, by simp⟩
  | text s => exact ⟨_, _, rfl, by simp⟩
  | @array items whole => cases items <;> exact ⟨_, _, rfl, by simp⟩
  | @object members whole => cases members <;> exact ⟨_, _, rfl, by simp⟩

/-- Where a container may close, a value is read as where it may not. -/
theorem Whole.ofTokens_valueOrClose {v : Json} (h : Whole v) (frames : List Frame)
    (ts : List Token) :
    ofTokens .valueOrClose frames (tokens v ++ ts) = ofTokens .value frames (tokens v ++ ts) := by
  obtain ⟨t, us, ht, hc⟩ := h.tokens_ne_close
  have hs : Progress.step .valueOrClose frames t = Progress.step .value frames t := by
    unfold Progress.step
    split <;> simp_all
  rw [ht, List.cons_append, ofTokens_cons, ofTokens_cons, hs]

theorem closeArray_reverse {items : List Json} (h : ∀ v ∈ items, v.isSkippable = true) :
    closeArray items.reverse = .array items := by
  have hall : items.reverse.all isSkippable = true := by simpa using h
  rw [closeArray, if_pos hall, List.reverse_reverse]

theorem closeObject_reverse {members : List (Key × Json)}
    (h : ∀ m ∈ members, m.1.isSkippable = true ∧ m.2.isSkippable = true) :
    closeObject members.reverse = .obj members .clean := by
  have hall : (members.reverse.all fun m => m.1.isSkippable && m.2.isSkippable) = true := by
    simpa using fun a b hm => h (a, b) hm
  rw [closeObject, if_pos hall, List.reverse_reverse]

/-- The items after the first are gathered in front of those before. -/
theorem ofTokens_itemTokens {vs : List Json} (hv : ∀ v ∈ vs, IsParsed v) (before : List Json)
    (frames : List Frame) (ts : List Token) :
    ofTokens .commaOrClose (.arr before :: frames) (itemTokens vs ++ ts) =
      ofTokens .commaOrClose (.arr (vs.reverse ++ before) :: frames) ts := by
  induction vs generalizing before with
  | nil => rfl
  | cons v vs ih =>
      calc
        ofTokens .commaOrClose (.arr before :: frames) (itemTokens (v :: vs) ++ ts)
        _ = ofTokens .value (.arr before :: frames) (tokens v ++ (itemTokens vs ++ ts)) := by
          rw [itemTokens, List.cons_append, ofTokens_cons, List.append_assoc]
          rfl
        _ = ofTokens .commaOrClose (.arr (v :: before) :: frames) (itemTokens vs ++ ts) :=
          hv v List.mem_cons_self _ _
        _ = _ := by
          rw [ih fun w hw => hv w (List.mem_cons_of_mem v hw)]
          simp

/-- A key, its colon and a value make a member. -/
theorem ofTokens_member {v : Json} (hv : IsParsed v) (k : Key) (before : List (Key × Json))
    (frames : List Frame) (ts : List Token) :
    ofTokens .colon (.obj before (some k) :: frames) (.colon :: (tokens v ++ ts)) =
      ofTokens .commaOrClose (.obj ((k, v) :: before) none :: frames) ts := by
  rw [ofTokens_cons]
  exact hv _ _

/-- The members after the first are gathered in front of those before. -/
theorem ofTokens_memberTokens {ms : List (String × Json)} (hm : ∀ m ∈ ms, IsParsed m.2)
    (before : List (Key × Json)) (frames : List Frame) (ts : List Token) :
    ofTokens .commaOrClose (.obj before none :: frames)
        (memberTokens (ms.map fun m => (.quoted (.text m.1), m.2)) ++ ts) =
      ofTokens .commaOrClose
        (.obj ((ms.map fun m => (.quoted (.text m.1), m.2)).reverse ++ before) none :: frames)
        ts := by
  induction ms generalizing before with
  | nil => rfl
  | cons m ms ih =>
      have hs : ∀ us, ofTokens .commaOrClose (.obj before none :: frames)
          (.comma :: .scalar (.text m.1) :: us) =
          ofTokens .colon (.obj before (some (.quoted (.text m.1))) :: frames) us := by
        intro us
        rw [ofTokens_cons]
        change ofTokens .key _ _ = _
        rw [ofTokens_cons]
        rfl
      rw [List.map_cons, memberTokens, keyRow, List.cons_append, List.cons_append, hs,
        List.cons_append, List.append_assoc, ofTokens_member (hm m List.mem_cons_self),
        ih fun w hw => hm w (List.mem_cons_of_mem m hw)]
      simp

/-- The tokens of a whole value bring about its delivery. -/
theorem ofTokens_tokens {v : Json} (h : Whole v) : IsParsed v := by
  induction h with
  | null => exact fun frames ts => ofTokens_cons ..
  | bool b => exact fun frames ts => ofTokens_cons ..
  | num negative n => exact fun frames ts => ofTokens_cons ..
  | text s => exact fun frames ts => ofTokens_cons ..
  | @array items whole ih =>
      intro frames ts
      have hclose := closeArray_reverse fun v hv => (whole v hv).isSkippable
      cases items with
      | nil => exact (ofTokens_cons ..).trans (ofTokens_cons ..)
      | cons v vs =>
          calc
            ofTokens .value frames (tokens (.array (v :: vs)) ++ ts)
            _ = ofTokens .valueOrClose (.arr [] :: frames)
                (tokens v ++ (itemTokens vs ++ .closeArray :: ts)) := by
              simp only [tokens, List.cons_append, List.append_assoc, List.nil_append]
              exact ofTokens_cons ..
            _ = ofTokens .commaOrClose (.arr [v] :: frames)
                (itemTokens vs ++ .closeArray :: ts) := by
              rw [(whole v List.mem_cons_self).ofTokens_valueOrClose]
              exact ih v List.mem_cons_self _ _
            _ = ofTokens .commaOrClose (.arr (v :: vs).reverse :: frames) (.closeArray :: ts) := by
              rw [ofTokens_itemTokens fun w hw => ih w (List.mem_cons_of_mem v hw)]
              simp
            _ = (Progress.deliver (.array (v :: vs)) frames).resume ts := by
              rw [ofTokens_cons, ← hclose]
              rfl
  | @object members whole ih =>
      intro frames ts
      cases members with
      | nil => exact (ofTokens_cons ..).trans (ofTokens_cons ..)
      | cons m ms =>
          have hclose : closeObject ((m :: ms).map fun m => (.quoted (.text m.1), m.2)).reverse =
              .object (m :: ms) := by
            apply closeObject_reverse
            intro x hx
            obtain ⟨y, hy, rfl⟩ := List.mem_map.1 hx
            exact ⟨rfl, (whole y hy).isSkippable⟩
          calc
            ofTokens .value frames (tokens (.object (m :: ms)) ++ ts)
            _ = ofTokens .keyOrClose (.obj [] none :: frames)
                (.scalar (.text m.1) :: .colon :: (tokens m.2 ++
                  (memberTokens (ms.map fun m => (.quoted (.text m.1), m.2)) ++
                    .closeObject :: ts))) := by
              simp only [object, List.map_cons, tokens, keyRow, List.cons_append,
                List.append_assoc, List.nil_append]
              exact ofTokens_cons ..
            _ = ofTokens .commaOrClose (.obj [(.quoted (.text m.1), m.2)] none :: frames)
                (memberTokens (ms.map fun m => (.quoted (.text m.1), m.2)) ++
                  .closeObject :: ts) := by
              rw [ofTokens_cons]
              exact ofTokens_member (ih m List.mem_cons_self) _ _ _ _
            _ = ofTokens .commaOrClose
                (.obj ((m :: ms).map fun m => (.quoted (.text m.1), m.2)).reverse none :: frames)
                (.closeObject :: ts) := by
              rw [ofTokens_memberTokens fun w hw => ih w (List.mem_cons_of_mem m hw)]
              simp
            _ = (Progress.deliver (.object (m :: ms)) frames).resume ts := by
              rw [ofTokens_cons, ← hclose]
              rfl

/-- A document made of the bytes of a whole value holds that value and nothing else. -/
theorem ofBytes_bytes {v : Json} (h : Whole v) : Document.ofBytes v.bytes = ⟨v, true⟩ := by
  have hs : Token.scan ((render v).map .char) = tokens v := by
    have := Token.scan_render h [] rfl
    rwa [List.append_nil, show Token.scan [] = [] by simp [Token.scan], List.append_nil] at this
  have hp : ofTokens .value [] (tokens v) = (v, []) := by
    have := ofTokens_tokens h [] []
    rwa [List.append_nil] at this
  rw [Document.ofBytes, bytes, Utf8.decode_encode, Document.ofPieces, hs, hp]
  rfl

/-- A document made of the text of a whole value holds that value and nothing else. -/
theorem ofText_print {v : Json} (h : Whole v) : Document.ofText v.print = ⟨v, true⟩ := by
  calc
    Document.ofText v.print = Document.ofPieces ((render v).map .char) := by
      rw [Document.ofText, print, String.toList_ofList]
    _ = Document.ofBytes v.bytes := by rw [Document.ofBytes, bytes, Utf8.decode_encode]
    _ = ⟨v, true⟩ := ofBytes_bytes h

end Courier.Json
