import Courier.Json.Print

/-!
# Written texts are scanned back

The compact text of a value is cut into the tokens of that value. A value qualifies if it is whole:
nothing in it is cut, broken or ill-formed, and its numbers are rows of digits. What follows a
number must not prolong it; everywhere else anything may follow.
-/

namespace Courier.Json

open Utf8 (Piece)

/-- Values that are written by a complete text, their numbers as rows of digits. -/
inductive Whole : Json → Prop
  | null : Whole .null
  | bool (b : Bool) : Whole (.bool b)
  | num (negative : Bool) (n : Nat) : Whole (.num (.whole negative n))
  | text (s : String) : Whole (.text s)
  | array {items : List Json} (whole : ∀ v ∈ items, Whole v) : Whole (.array items)
  | object {members : List (String × Json)} (whole : ∀ m ∈ members, Whole m.2) :
      Whole (.object members)

mutual

/-- The tokens of a whole value. -/
def tokens : Json → List Token
  | .arr [] _ => [.openArray, .closeArray]
  | .arr (v :: vs) _ => .openArray :: (tokens v ++ (itemTokens vs ++ [.closeArray]))
  | .obj [] _ => [.openObject, .closeObject]
  | .obj ((k, v) :: ms) _ =>
      .openObject :: .scalar (.str (keyRow k)) :: .colon ::
        (tokens v ++ (memberTokens ms ++ [.closeObject]))
  | v => [.scalar v]

/-- The tokens of the items after the first. -/
def itemTokens : List Json → List Token
  | [] => []
  | v :: vs => .comma :: (tokens v ++ itemTokens vs)

/-- The tokens of the members after the first. -/
def memberTokens : List (Key × Json) → List Token
  | [] => []
  | (k, v) :: ms =>
      .comma :: .scalar (.str (keyRow k)) :: .colon :: (tokens v ++ memberTokens ms)

/-- The quoted row that a key is. -/
def keyRow : Key → Quoted
  | .quoted q => q
  | .other => .text ""

end

namespace Token

/-- Whether pieces do not prolong a number that stands before them. -/
def stops : List Piece → Bool
  | .char c :: _ => !(c.isDigit || c = '.' || c = 'e' || c = 'E')
  | _ => true

theorem scan_cons {g : Piece} {gs rest : List Piece} {t : Token} (hg : isBlank g = false)
    (h : front? (g :: gs) = some (t, rest)) : scan (g :: gs) = t :: scan rest := by
  have hd : (g :: gs).dropWhile isBlank = g :: gs := by simp [hg]
  rw [scan]
  simp only [hd, List.cons_ne_nil, if_false]
  split
  · rename_i hn
    rw [hd, h] at hn
    cases hn
  · rename_i u r hs
    rw [hd] at hs
    obtain ⟨rfl, rfl⟩ := Prod.mk.inj (Option.some.inj (h.symm.trans hs))
    rfl

/-! ### Numbers -/

theorem digits_append {ds : List Char} (hd : ∀ c ∈ ds, c.isDigit = true) {rest : List Piece}
    (hr : stops rest = true) : digits (ds.map .char ++ rest) = (ds, rest) := by
  induction ds with
  | nil =>
      match rest with
      | [] => rfl
      | .illFormed _ :: _ => rfl
      | .char c :: rest =>
          have hc : c.isDigit = false := by simp_all [stops]
          simp [digits, hc]
  | cons c ds ih =>
      have hc := hd c List.mem_cons_self
      have hi := ih fun x hx => hd x (List.mem_cons_of_mem c hx)
      simp [digits, hc, hi]

theorem head?_toDigits {n : Nat} (hn : n ≠ 0) : (Nat.toDigits 10 n).head? ≠ some '0' := by
  induction n using Nat.strongRecOn with
  | ind n ih =>
      by_cases h : n < 10
      · have key : ∀ m < 10, m ≠ 0 → Nat.digitChar m ≠ '0' := by decide
        simpa [Nat.toDigits_of_lt_base h] using key n h hn
      · obtain ⟨d, ds, hd⟩ := List.exists_cons_of_ne_nil (@Nat.toDigits_ne_nil (n / 10) 10)
        have hi := ih (n / 10) (by omega) (by omega)
        rw [hd] at hi
        rw [Nat.toDigits_of_base_le (by omega) (by omega), hd]
        exact hi

theorem whole?_toDigits (n : Nat) {rest : List Piece} (hr : stops rest = true) :
    whole? ((Nat.toDigits 10 n).map .char ++ rest) = some (Nat.toDigits 10 n, rest) := by
  have hd : ∀ c ∈ Nat.toDigits 10 n, c.isDigit = true := fun c hc =>
    Nat.isDigit_of_mem_toDigits (by decide) (by decide) hc
  rw [whole?, digits_append hd hr]
  split
  · rename_i h
    exact absurd (Prod.mk.inj h).1 Nat.toDigits_ne_nil
  · rename_i d ds _ h
    have hn : n ≠ 0 := by
      rintro rfl
      simp [Nat.toDigits_zero] at h
    have := head?_toDigits hn
    rw [(Prod.mk.inj h).1] at this
    simp at this
  · rfl

theorem natOf_toDigits (n : Nat) : natOf (Nat.toDigits 10 n) = n := by
  have h := @Nat.ofDigitChars_ten_toDigits n
  simpa only [natOf, Nat.ofDigitChars, Nat.mul_comm 10] using h

theorem fraction?_of_stops {rest : List Piece} (hr : stops rest = true) :
    fraction? rest = some (none, rest) := by
  unfold fraction?
  split
  · simp [stops] at hr
  · rfl

theorem exponent?_of_stops {rest : List Piece} (hr : stops rest = true) :
    exponent? rest = some (none, rest) := by
  unfold exponent?
  split
  · rename_i c rest
    have hc : ¬ (c = 'e' ∨ c = 'E') := by simp_all [stops]
    rw [if_neg hc]
  · rfl

/-- A row of digits with its sign is read as the number that it writes. -/
theorem number?_render (negative : Bool) (n : Nat) {rest : List Piece} (hr : stops rest = true) :
    number? ((Number.whole negative n).render.map .char ++ rest) =
      some (.whole negative n, rest) := by
  unfold number?
  split
  rename_i sign gs h
  have hs : (sign, gs) = (negative, (Nat.toDigits 10 n).map .char ++ rest) := by
    rw [← h]
    cases negative with
    | true => simp [Number.render]
    | false =>
        simp only [Number.render, Bool.false_eq_true, if_false, List.nil_append,
          Nat.toString_eq_repr, Nat.toList_repr]
        split
        · rename_i r h
          cases hd : Nat.toDigits 10 n with
          | nil => exact absurd hd Nat.toDigits_ne_nil
          | cons d ds =>
              have hc : d.isDigit = true :=
                Nat.isDigit_of_mem_toDigits (by decide) (by decide) (hd ▸ List.mem_cons_self)
              rw [hd] at h
              simp only [List.map_cons, List.cons_append, List.cons.injEq, Piece.char.injEq] at h
              rw [h.1] at hc
              exact absurd hc (by decide)
        · rfl
  obtain ⟨rfl, rfl⟩ := Prod.mk.inj hs
  simp only [whole?_toDigits n hr, fraction?_of_stops hr, exponent?_of_stops hr,
    natOf_toDigits, Option.bind_eq_bind, Option.bind_some, Option.pure_def]

/-! ### Quoted rows -/

theorem quoted?_backslash {gs after : List Piece} {g : Content}
    (h : escape? gs = some (g, after)) :
    quoted? (.char '\\' :: gs) = (quoted? after).map fun r => (g :: r.1, r.2) := by
  rw [quoted?]
  simp only [Char.reduceEq, if_false, if_true]
  split
  · rename_i hn
    rw [h] at hn
    cases hn
  · rename_i g' after' hs
    obtain ⟨rfl, rfl⟩ := Prod.mk.inj (Option.some.inj (h.symm.trans hs))
    rfl

/-- The escape of a control character by its number is read back. -/
theorem unicode?_control {c : Char} (hc : c.toNat < 0x20) (gs : List Piece) :
    unicode? (.char '0' :: .char '0' :: .char (Hex.lower (c.toNat / 16)) ::
      .char (Hex.lower (c.toNat % 16)) :: gs) = some (.char c, gs) := by
  have h₀ : Hex.value? '0' = some 0 := rfl
  have h₁ := Hex.value?_lower (c.toNat / 16) (by omega)
  have h₂ := Hex.value?_lower (c.toNat % 16) (by omega)
  have hn : ((0 * 16 + 0) * 16 + c.toNat / 16) * 16 + c.toNat % 16 = c.toNat := by omega
  have hs : c.toNat < 0xD800 ∨ 0xDFFF < c.toNat := by omega
  simp only [unicode?, hex4?, h₀, h₁, h₂, hn, hs, if_true, Option.bind_eq_bind, Option.bind_some,
    Option.pure_def, Char.ofNat_toNat]

/-- An escaped character is read as that character. -/
theorem quoted?_escapeChar (c : Char) (gs : List Piece) :
    quoted? ((escapeChar c).map .char ++ gs) =
      (quoted? gs).map fun r => (.char c :: r.1, r.2) := by
  unfold escapeChar
  split
  case isTrue h => subst h; exact quoted?_backslash rfl
  split
  case isTrue h => subst h; exact quoted?_backslash rfl
  split
  case isTrue h => subst h; exact quoted?_backslash rfl
  split
  case isTrue h => subst h; exact quoted?_backslash rfl
  split
  case isTrue h => subst h; exact quoted?_backslash rfl
  split
  case isTrue h => subst h; exact quoted?_backslash rfl
  split
  case isTrue h => subst h; exact quoted?_backslash rfl
  split
  case isTrue h => exact quoted?_backslash (unicode?_control h gs)
  case isFalse hq hb _ _ _ _ _ hn =>
      rw [List.map_singleton, List.singleton_append, quoted?, if_neg hq, if_neg hb, if_neg hn]

theorem quoted?_flatMap_escapeChar (cs : List Char) (rest : List Piece) :
    quoted? ((cs.flatMap escapeChar).map .char ++ .char '"' :: rest) =
      some (cs.map .char, rest) := by
  induction cs with
  | nil => simp [quoted?]
  | cons c cs ih =>
      rw [List.flatMap_cons, List.map_append, List.append_assoc, quoted?_escapeChar, ih]
      rfl

theorem quoted_map_char (cs : List Char) :
    Content.quoted (cs.map .char) = .text (String.ofList cs) := by
  have h : (cs.map Content.char).mapM Content.char? = some cs := by
    induction cs with
    | nil => rfl
    | cons c cs ih => simp [List.mapM_cons, Content.char?, ih]
  simp [Content.quoted, h]

/-- A quoted text is one token. -/
theorem scan_quote (s : String) (rest : List Piece) :
    scan ((quote s).map .char ++ rest) = .scalar (.text s) :: scan rest := by
  have hq : (quote s).map Piece.char ++ rest =
      .char '"' :: ((s.toList.flatMap escapeChar).map .char ++ .char '"' :: rest) := by
    simp [quote]
  rw [hq]
  apply scan_cons rfl
  simp [front?, quoted?_flatMap_escapeChar, quoted_map_char]

/-- What starts with a sign or a digit is scanned as a number. -/
theorem front?_number {c : Char} (hc : c = '-' ∨ c.isDigit = true) (gs : List Piece) :
    front? (.char c :: gs) =
      (number? (.char c :: gs)).map fun r => (.scalar (.num r.1), r.2) := by
  unfold front?
  split <;> first | rfl | (rename_i h; simp only [List.cons.injEq, Piece.char.injEq] at h; simp_all)

theorem scan_number (negative : Bool) (n : Nat) {rest : List Piece} (hr : stops rest = true) :
    scan ((Number.whole negative n).render.map .char ++ rest) =
      .scalar (.num (.whole negative n)) :: scan rest := by
  have hn := number?_render negative n hr
  obtain ⟨c, cs, hcs, hc⟩ : ∃ c cs, (Number.whole negative n).render = c :: cs ∧
      (c = '-' ∨ c.isDigit = true) := by
    cases negative with
    | true => exact ⟨'-', _, rfl, Or.inl rfl⟩
    | false =>
        obtain ⟨d, ds, hd⟩ := List.exists_cons_of_ne_nil (@Nat.toDigits_ne_nil n 10)
        refine ⟨d, ds, by simp [Number.render, hd], Or.inr ?_⟩
        exact Nat.isDigit_of_mem_toDigits (by decide) (by decide) (hd ▸ List.mem_cons_self)
  rw [hcs, List.map_cons, List.cons_append] at hn ⊢
  apply scan_cons
  · rcases hc with rfl | hc
    · rfl
    · simp only [isBlank, Bool.or_eq_false_iff, decide_eq_false_iff_not]
      refine ⟨⟨⟨?_, ?_⟩, ?_⟩, ?_⟩ <;> (rintro rfl; exact absurd hc (by decide))
  · rw [front?_number hc, hn]
    rfl

/-! ### Values -/

/-- A written value is scanned into its tokens, whatever follows that does not prolong it. -/
def IsScanned (v : Json) : Prop :=
  ∀ rest, stops rest = true → scan ((render v).map .char ++ rest) = tokens v ++ scan rest

theorem stops_items (vs : List Json) {rest : List Piece} (hr : stops rest = true) :
    stops ((renderItems vs).map .char ++ rest) = true := by
  cases vs with
  | nil => exact hr
  | cons v vs => rfl

theorem stops_members (ms : List (Key × Json)) {rest : List Piece} (hr : stops rest = true) :
    stops ((renderMembers ms).map .char ++ rest) = true := by
  cases ms with
  | nil => exact hr
  | cons m ms => rfl

theorem scan_openArray (gs : List Piece) : scan (.char '[' :: gs) = .openArray :: scan gs :=
  scan_cons rfl rfl

theorem scan_closeArray (gs : List Piece) : scan (.char ']' :: gs) = .closeArray :: scan gs :=
  scan_cons rfl rfl

theorem scan_openObject (gs : List Piece) :
    scan (.char '\x7b' :: gs) = .openObject :: scan gs :=
  scan_cons rfl rfl

theorem scan_closeObject (gs : List Piece) :
    scan (.char '\x7d' :: gs) = .closeObject :: scan gs :=
  scan_cons rfl rfl

theorem scan_comma (gs : List Piece) : scan (.char ',' :: gs) = .comma :: scan gs :=
  scan_cons rfl rfl

theorem scan_colon (gs : List Piece) : scan (.char ':' :: gs) = .colon :: scan gs :=
  scan_cons rfl rfl

theorem scan_items {vs : List Json} (hv : ∀ v ∈ vs, IsScanned v) {rest : List Piece}
    (hr : stops rest = true) :
    scan ((renderItems vs).map .char ++ rest) = itemTokens vs ++ scan rest := by
  induction vs with
  | nil => rfl
  | cons v vs ih =>
      have hi := ih fun w hw => hv w (List.mem_cons_of_mem v hw)
      simp only [renderItems, itemTokens, List.map_cons, List.map_append, List.cons_append,
        List.append_assoc, scan_comma]
      rw [hv v List.mem_cons_self _ (stops_items vs hr), hi]

theorem scan_member {k : String} {v : Json} (hv : IsScanned v) {rest : List Piece}
    (hr : stops rest = true) :
    scan ((quote k).map .char ++ .char ':' :: ((render v).map .char ++ rest)) =
      .scalar (.text k) :: .colon :: (tokens v ++ scan rest) := by
  rw [scan_quote, scan_colon, hv rest hr]

theorem scan_members {ms : List (String × Json)} (hm : ∀ m ∈ ms, IsScanned m.2)
    {rest : List Piece} (hr : stops rest = true) :
    scan ((renderMembers (ms.map fun m => (.quoted (.text m.1), m.2))).map .char ++ rest) =
      memberTokens (ms.map fun m => (.quoted (.text m.1), m.2)) ++ scan rest := by
  induction ms with
  | nil => rfl
  | cons m ms ih =>
      have hi := ih fun w hw => hm w (List.mem_cons_of_mem m hw)
      simp only [List.map_cons, renderMembers, memberTokens, keyRow, Key.render, Quoted.shown,
        List.map_append, List.cons_append, List.append_assoc, scan_comma]
      rw [scan_member (hm m List.mem_cons_self) (stops_members _ hr), hi]

/-- The compact text of a whole value is scanned into its tokens. -/
theorem scan_render {v : Json} (h : Whole v) : IsScanned v := by
  induction h with
  | null =>
      intro rest _
      exact scan_cons rfl rfl
  | bool b =>
      intro rest _
      cases b <;> exact scan_cons rfl rfl
  | num negative n =>
      intro rest hr
      exact scan_number negative n hr
  | text s =>
      intro rest _
      exact scan_quote s rest
  | @array items whole ih =>
      intro rest _
      cases items with
      | nil => exact (scan_openArray _).trans (congrArg _ (scan_closeArray rest))
      | cons v vs =>
          have hs : stops (.char ']' :: rest) = true := rfl
          have hv := ih v List.mem_cons_self
          have hvs := scan_items (fun w hw => ih w (List.mem_cons_of_mem v hw)) hs
          simp only [render, tokens, Ending.bracket, List.map_cons, List.map_append,
            List.cons_append, List.append_assoc, reduceCtorEq, if_false, List.map_nil,
            List.nil_append]
          rw [scan_openArray, hv _ (stops_items vs hs), hvs, scan_closeArray]
  | @object members whole ih =>
      intro rest _
      cases members with
      | nil => exact (scan_openObject _).trans (congrArg _ (scan_closeObject rest))
      | cons m ms =>
          have hs : stops (.char '\x7d' :: rest) = true := rfl
          have hm := ih m List.mem_cons_self
          have hms := scan_members (fun w hw => ih w (List.mem_cons_of_mem m hw)) hs
          simp only [object, render, tokens, keyRow, Key.render, Quoted.shown, Ending.bracket,
            List.map_cons, List.map_append, List.cons_append, List.append_assoc, reduceCtorEq,
            if_false, List.map_nil, List.nil_append]
          rw [scan_openObject, scan_member hm (stops_members _ hs), hms, scan_closeObject]

end Token

end Courier.Json
