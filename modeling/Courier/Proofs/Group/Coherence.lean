import Courier.Proofs.Group.Scene

/-!
# What the membership cache tells

A cache is coherent if all that it keeps and all that it has told was brought by look-ups, each with
what the source replied to it. An invalidation drops what is kept, and not what is under way. Main
statement: over all moves, whoever asks for a group is told what the source held at a reply to a
look-up of that group, or why that look-up failed. All who wait for a look-up hear of its end alike,
and every look-up can end. If no look-up of the group is under way when it is dropped, whoever asks
later is told what a look-up has brought that began after that; if one is under way, they may be
told an older reply. The look-up of the service itself is four such moves.
-/

namespace Courier.Group

namespace Cache.IsLater

variable {c d : Cache} {load : Nat} {group : String}

theorem get?_of_brought (h : IsLater c d) {members : Members}
    (hl : c.loads.get? load = some ⟨group, some members⟩) :
    d.loads.get? load = some ⟨group, some members⟩ := by
  obtain ⟨k, hk, -, he⟩ := h load _ hl
  rw [hk, he rfl]

theorem exists_get? (h : IsLater c d) {result : Option Members}
    (hl : c.loads.get? load = some ⟨group, result⟩) :
    ∃ result, d.loads.get? load = some ⟨group, result⟩ := by
  obtain ⟨⟨_, result⟩, hk, rfl, -⟩ := h load _ hl
  exact ⟨result, hk⟩

end Cache.IsLater

namespace Scene

/-- Whether what one who has asked waits for is a look-up of the group, or brought what is told. -/
def Fits (p : Scene) : Inquiry → Prop
  | ⟨group, .waiting load⟩ => ∃ result, p.cache.loads.get? load = some ⟨group, result⟩
  | ⟨group, .told load members⟩ => p.cache.loads.get? load = some ⟨group, some members⟩

/-- Whether all that is kept and told was brought by look-ups, which bring what the source replies
unless they take too long, and of which one at a time goes on for a group. -/
structure IsCoherent (p : Scene) : Prop where
  numbered : ∀ load ∈ p.cache.loads.keys, load < p.cache.loads.size
  single : ∀ a b group, p.IsUnderWay a group → p.IsUnderWay b group → a = b
  kept : ∀ group members, p.cache.kept.get? group = some members →
    p.cache.loads.get? (p.origin group) = some ⟨group, some (.ok members)⟩
  fits : ∀ x ∈ p.inquiries, p.Fits x
  brought : ∀ load group members, p.cache.loads.get? load = some ⟨group, some members⟩ →
    p.replies.get? load = some members ∨ members = .error (Cache.tooSlow group)
  replied : ∀ load ∈ p.replies.keys, load ∈ p.cache.loads.keys

variable {p q : Scene} {load : Nat} {group : String}

theorem Fits.later {x : Inquiry} (h : p.Fits x) (hl : p.cache.IsLater q.cache) : q.Fits x := by
  obtain ⟨group, load | ⟨load, members⟩⟩ := x
  · obtain ⟨result, hr⟩ := h
    exact hl.exists_get? hr
  · exact hl.get?_of_brought h

theorem IsUnderWay.mem_keys (h : p.IsUnderWay load group) : load ∈ p.cache.loads.keys :=
  Table.mem_keys_iff.2 ⟨_, h⟩

theorem IsUnderWay.result?_eq_none (h : p.IsUnderWay load group) :
    p.cache.result? load = none := by
  rw [Cache.result?, h]
  rfl

/-- What is kept after a look-up has brought members was kept before, or is what it has brought. -/
theorem kept_of_bring {members ms : List String} {g : String}
    (h : (if p.cache.keeps then p.cache.kept.insert group members else p.cache.kept).get? g =
      some ms) :
    let origin := if p.cache.keeps then Function.update p.origin group load else p.origin
    p.cache.kept.get? g = some ms ∧ origin g = p.origin g ∨
      g = group ∧ origin g = load ∧ ms = members := by
  intro origin
  split at h
  · have ho : origin = Function.update p.origin group load := if_pos ‹_›
    rw [ho]
    rcases Table.get?_insert_eq_some_iff.1 h with ⟨rfl, rfl⟩ | ⟨hne, h⟩
    · exact .inr ⟨rfl, Function.update_self .., rfl⟩
    · exact .inl ⟨h, Function.update_of_ne hne ..⟩
  · have ho : origin = p.origin := if_neg ‹_›
    exact .inl ⟨h, congrFun ho g⟩

namespace IsCoherent

theorem new (server : Server) (keeps : Bool) (source : String → Members) :
    IsCoherent (.new server keeps source) where
  numbered := List.forall_mem_nil _
  single a b group h := by cases h
  kept group members h := by cases h
  fits := List.forall_mem_nil _
  brought load group members h := by cases h
  replied := List.forall_mem_nil _

theorem size_notMem (h : p.IsCoherent) : p.cache.loads.size ∉ p.cache.loads.keys :=
  fun hm => Nat.lt_irrefl _ (h.numbered _ hm)

/-- A step changes no look-up but one that is new or ends. -/
theorem isLater_step (h : p.IsCoherent) (hs : Step p q) : p.cache.IsLater q.cache := by
  cases hs with
  | begun => exact .begin h.size_notMem _
  | brought hu => exact .close hu _ _
  | failed hu => exact .close hu _ _
  | aside | answered | joined | replied | heard | dropped => exact .refl _

/-- One more who asks fits in. -/
theorem inquire (h : p.IsCoherent) {x : Inquiry} (hx : p.Fits x) :
    IsCoherent { p with inquiries := p.inquiries ++ [x] } :=
  { h with fits := List.forall_mem_append.2 ⟨h.fits, List.forall_mem_singleton.2 hx⟩ }

theorem begin (h : p.IsCoherent) (hn : ∀ load, ¬ p.IsUnderWay load group) :
    IsCoherent (p.withCache { p.cache with
      loads := p.cache.loads.insert p.cache.loads.size ⟨group, none⟩ }) := by
  have later := Cache.IsLater.begin h.size_notMem group
  constructor
  · exact Table.lt_size_insert_size h.numbered _
  · intro a b g ha hb
    rcases Table.get?_insert_eq_some_iff.1 ha with ⟨rfl, hga⟩ | ⟨-, ha⟩
    · rcases Table.get?_insert_eq_some_iff.1 hb with ⟨rfl, -⟩ | ⟨-, hb⟩
      · rfl
      · cases hga
        exact absurd hb (hn b)
    · rcases Table.get?_insert_eq_some_iff.1 hb with ⟨rfl, hgb⟩ | ⟨-, hb⟩
      · cases hgb
        exact absurd ha (hn a)
      · exact h.single a b g ha hb
  · exact fun g members hk => later.get?_of_brought (h.kept g members hk)
  · exact fun x hx => (h.fits x hx).later later
  · intro n g members hl
    rcases Table.get?_insert_eq_some_iff.1 hl with ⟨-, he⟩ | ⟨-, hl⟩
    · cases he
    · exact h.brought n g members hl
  · exact fun n hn => Table.mem_keys_insert_iff.2 (.inr (h.replied n hn))

/-- A look-up ends with what it has brought. What is kept then was kept before, or is that. -/
theorem close (h : p.IsCoherent) (hu : p.IsUnderWay load group) {result : Members}
    (hr : p.replies.get? load = some result ∨ result = .error (Cache.tooSlow group))
    {kept : Table String (List String)} {origin : String → Nat}
    (hk : ∀ g members, kept.get? g = some members →
      p.cache.kept.get? g = some members ∧ origin g = p.origin g ∨
        g = group ∧ origin g = load ∧ result = .ok members) :
    IsCoherent { p.withCache { p.cache with
      kept, loads := p.cache.loads.insert load ⟨group, some result⟩ } with origin } := by
  have later := Cache.IsLater.close hu kept result
  have old : ∀ n g, (p.cache.loads.insert load ⟨group, some result⟩).get? n = some ⟨g, none⟩ →
      p.IsUnderWay n g := by
    intro n g hl
    rcases Table.get?_insert_eq_some_iff.1 hl with ⟨-, he⟩ | ⟨-, hl⟩
    · cases he
    · exact hl
  constructor
  · exact Table.lt_size_insert_of_mem h.numbered hu.mem_keys _
  · exact fun a b g ha hb => h.single a b g (old a g ha) (old b g hb)
  · intro g members hg
    rcases hk g members hg with ⟨hg, ho⟩ | ⟨rfl, ho, rfl⟩
    · change (p.cache.loads.insert load _).get? (origin g) = _
      rw [ho]
      exact later.get?_of_brought (h.kept g members hg)
    · change (p.cache.loads.insert load _).get? (origin g) = _
      rw [ho, Table.get?_insert_self]
  · exact fun x hx => (h.fits x hx).later later
  · intro n g members hl
    rcases Table.get?_insert_eq_some_iff.1 hl with ⟨rfl, he⟩ | ⟨-, hl⟩
    · cases he
      exact hr
    · exact h.brought n g members hl
  · exact fun n hn => Table.mem_keys_insert_iff.2 (.inr (h.replied n hn))

theorem bring (h : p.IsCoherent) (hu : p.IsUnderWay load group) {members : List String}
    (hr : p.replies.get? load = some (.ok members)) :
    IsCoherent { p.withCache { p.cache with
        kept := if p.cache.keeps then p.cache.kept.insert group members else p.cache.kept
        loads := p.cache.loads.insert load ⟨group, some (.ok members)⟩ } with
      origin := if p.cache.keeps then Function.update p.origin group load else p.origin } := by
  refine h.close hu (.inl hr) fun g ms hg => (kept_of_bring hg).imp_right ?_
  rintro ⟨rfl, ho, rfl⟩
  exact ⟨rfl, ho, rfl⟩

theorem reply (h : p.IsCoherent) (hu : p.IsUnderWay load group) (members : Members) :
    IsCoherent { p with replies := p.replies.insert load members } where
  numbered := h.numbered
  single := h.single
  kept := h.kept
  fits := h.fits
  brought n g m hl := by
    have hne : n ≠ load := by
      rintro rfl
      cases hl.symm.trans hu
    change (p.replies.insert load members).get? n = _ ∨ _
    rw [Table.get?_insert, if_neg hne]
    exact h.brought n g m hl
  replied n hn := by
    rcases Table.mem_keys_insert_iff.1 hn with rfl | hn
    · exact hu.mem_keys
    · exact h.replied n hn

theorem hear (h : p.IsCoherent) {number : Nat} {members : Members}
    (hi : p.inquiries[number]? = some ⟨group, .waiting load⟩)
    (hr : p.cache.result? load = some members) :
    IsCoherent { p with inquiries := p.inquiries.set number ⟨group, .told load members⟩ } := by
  refine { h with fits := fun x hx => ?_ }
  rcases List.mem_or_eq_of_mem_set hx with hx | rfl
  · exact h.fits x hx
  · obtain ⟨result, hl⟩ := h.fits _ (List.mem_of_getElem? hi)
    rw [Cache.result?, hl] at hr
    obtain rfl : result = some members := hr
    exact hl

theorem drop (h : p.IsCoherent) (server : Server) (group : String) :
    IsCoherent ({ p with server }.withCache (p.cache.invalidate group)) := by
  refine ⟨h.numbered, h.single, fun g members hg => ?_, h.fits, h.brought, h.replied⟩
  exact h.kept g members (Cache.kept_invalidate hg).2

/-- Every step keeps a cache coherent. -/
theorem step (h : p.IsCoherent) (hs : Step p q) : q.IsCoherent := by
  cases hs with
  | aside => exact ⟨h.numbered, h.single, h.kept, h.fits, h.brought, h.replied⟩
  | answered hk => exact h.inquire (h.kept _ _ hk)
  | joined hu => exact h.inquire ⟨none, hu⟩
  | begun hn => exact (h.begin hn).inquire ⟨none, Table.get?_insert_self _ _ _⟩
  | replied hu => exact h.reply hu _
  | brought hu hr => exact h.bring hu hr
  | failed hu hr =>
      exact h.close hu (hr.imp_right fun hf => hf ▸ rfl) fun g members hg => .inl ⟨hg, rfl⟩
  | heard hi hr => exact h.hear hi hr
  | dropped server group => exact h.drop server group

theorem run (h : p.IsCoherent) (moves : List Move) :
    (p.run moves).IsCoherent ∧ p.cache.IsLater (p.run moves).cache :=
  run_of_step (I := fun q => q.IsCoherent ∧ p.cache.IsLater q.cache)
    (fun hq hs => ⟨hq.1.step hs, hq.2.trans (hq.1.isLater_step hs)⟩) ⟨h, .refl _⟩ moves

end IsCoherent

/-! ### Replies of the source -/

/-- Whether during moves the source has replied to a look-up of a group, which was under way, with
what it held by then. -/
def HasReplied (p : Scene) (moves : List Move) (load : Nat) (group : String) (members : Members) :
    Prop :=
  ∃ earlier later, moves = earlier ++ .reply load :: later ∧
    (p.run earlier).IsUnderWay load group ∧ (p.run earlier).source group = members

theorem replies_move {m : Move} {members : Members}
    (h : (p.move m).replies.get? load = some members) :
    p.replies.get? load = some members ∨
      m = .reply load ∧ ∃ group, p.IsUnderWay load group ∧ p.source group = members := by
  cases m with
  | reply n =>
      replace h : (p.reply n).replies.get? load = some members := h
      unfold reply at h
      split at h
      · rename_i group hu _
        rcases Table.get?_insert_eq_some_iff.1 h with ⟨rfl, rfl⟩ | ⟨-, h⟩
        · exact .inr ⟨rfl, group, hu, rfl⟩
        · exact .inl h
      · exact .inl h
  | finish n =>
      replace h : (p.finish n).replies.get? load = some members := h
      unfold finish at h
      split at h <;> exact .inl h
  | expire n =>
      replace h : (p.expire n).replies.get? load = some members := h
      unfold expire at h
      split at h <;> exact .inl h
  | hear number =>
      replace h : (p.hear number).replies.get? load = some members := h
      unfold hear at h
      split at h
      · split at h <;> exact .inl h
      · exact .inl h
  | _ => exact .inl h

/-- What the source has replied it has replied before the moves or during them. -/
theorem hasReplied_of_run {moves : List Move} {members : Members}
    (h : (p.run moves).replies.get? load = some members) :
    p.replies.get? load = some members ∨ ∃ group, p.HasReplied moves load group members := by
  induction moves generalizing p with
  | nil => exact .inl h
  | cons m moves ih =>
      rcases ih h with h | ⟨group, earlier, later, rfl, hu, hs⟩
      · rcases replies_move h with h | ⟨rfl, group, hu, hs⟩
        · exact .inl h
        · exact .inr ⟨group, [], moves, rfl, hu, hs⟩
      · exact .inr ⟨group, m :: earlier, later, rfl, hu, hs⟩

/-- What is told was brought by a look-up to which the source has replied so, before the moves or
during them, or which took too long. -/
theorem IsCoherent.told (h : p.IsCoherent) {moves : List Move} {number : Nat} {members : Members}
    (hi : (p.run moves).inquiries[number]? = some ⟨group, .told load members⟩) :
    p.replies.get? load = some members ∨ p.HasReplied moves load group members ∨
      members = .error (Cache.tooSlow group) := by
  obtain ⟨hc, -⟩ := h.run moves
  have hl : (p.run moves).cache.loads.get? load = some ⟨group, some members⟩ :=
    hc.fits _ (List.mem_of_getElem? hi)
  rcases hc.brought load group members hl with hr | hr
  · rcases hasReplied_of_run hr with hr | ⟨g, earlier, later, rfl, hu, hs⟩
    · exact .inl hr
    · -- the look-up is still one of the group for which it was under way at the reply
      obtain ⟨result, hg⟩ := ((h.run earlier).1.run (.reply load :: later)).2.exists_get? hu
      rw [← run_append, hl] at hg
      cases hg
      exact .inr (.inl ⟨earlier, later, rfl, hu, hs⟩)
  · exact .inr (.inr hr)

/-! ### Those who wait -/

/-- One who has asked stays, or is told what the look-up has brought. -/
theorem inquiry_step (hs : Step p q) {number : Nat} {x : Inquiry}
    (hi : p.inquiries[number]? = some x) :
    q.inquiries[number]? = some x ∨ ∃ load members, x.stage = .waiting load ∧
      p.cache.result? load = some members ∧
        q.inquiries[number]? = some ⟨x.group, .told load members⟩ := by
  have hlt : number < p.inquiries.length := (List.getElem?_eq_some_iff.1 hi).1
  have appended : ∀ y, (p.inquiries ++ [y])[number]? = some x := fun y =>
    (List.getElem?_append_left hlt).trans hi
  cases hs with
  | answered | joined | begun => exact .inl (appended _)
  | @heard n load group members hn hr =>
      by_cases he : n = number
      · subst he
        cases hi.symm.trans hn
        exact .inr ⟨load, members, rfl, hr, List.getElem?_set_self hlt⟩
      · exact .inl ((List.getElem?_set_ne he).trans hi)
  | aside | replied | brought | failed | dropped => exact .inl hi

/-- Whether one who has asked is told what a look-up has brought, or only has to hear of it. -/
def IsDue (p : Scene) (number : Nat) (group : String) (load : Nat) (members : Members) : Prop :=
  p.cache.result? load = some members ∧
    (p.inquiries[number]? = some ⟨group, .waiting load⟩ ∨
      p.inquiries[number]? = some ⟨group, .told load members⟩)

section IsDue

variable {number : Nat} {members : Members}

theorem IsDue.step (h : p.IsDue number group load members) (hc : p.IsCoherent) (hs : Step p q) :
    q.IsDue number group load members := by
  obtain ⟨hr, hi⟩ := h
  refine ⟨((hc.isLater_step hs).result? (by rw [hr]; rfl)).trans hr, ?_⟩
  rcases hi with hi | hi
  · rcases inquiry_step hs hi with hi | ⟨n, told, he, hn, hi⟩
    · exact .inl hi
    · cases he
      cases hr.symm.trans hn
      exact .inr hi
  · rcases inquiry_step hs hi with hi | ⟨n, told, he, -⟩
    · exact .inr hi
    · cases he

theorem IsDue.run (h : p.IsDue number group load members) (hc : p.IsCoherent)
    (moves : List Move) : (p.run moves).IsDue number group load members :=
  (run_of_step (I := fun q => q.IsCoherent ∧ q.IsDue number group load members)
    (fun hq hs => ⟨hq.1.step hs, hq.2.step hq.1 hs⟩) ⟨hc, h⟩ moves).2

theorem IsDue.hear (h : p.IsDue number group load members) :
    (p.hear number).inquiries[number]? = some ⟨group, .told load members⟩ := by
  obtain ⟨hr, hi | hi⟩ := h
  · simp only [Scene.hear, hi, hr]
    exact List.getElem?_set_self (List.getElem?_eq_some_iff.1 hi).1
  · simp only [Scene.hear, hi]

end IsDue

/-- A look-up that fails changes nothing but itself. -/
theorem Step.of_failed (hs : Step p q) (hu : p.IsUnderWay load group) {fault : ServiceError}
    (hr : q.cache.result? load = some (.error fault)) :
    q.cache.kept = p.cache.kept ∧
      ∀ other, other ≠ load → q.cache.loads.get? other = p.cache.loads.get? other := by
  have running := hu.result?_eq_none
  cases hs with
  | @failed n g fault' hn _ =>
      refine ⟨rfl, fun other ho => ?_⟩
      by_cases he : load = n
      · subst he
        exact (Table.get?_insert ..).trans (if_neg ho)
      · replace hr := (Cache.result?_insert ..).symm.trans hr
        rw [if_neg he] at hr
        cases running.symm.trans hr
  | brought | begun =>
      replace hr := (Cache.result?_insert ..).symm.trans hr
      split at hr
      · cases hr
      · cases running.symm.trans hr
  | aside | answered | joined | replied | heard | dropped => cases running.symm.trans hr

/-! ### After a group is dropped -/

/-- Whether all that is kept of a group, all that is under way for it and all who asked for it since
depend on look-ups that are not among those known before. -/
structure IsSince (known : List Nat) (count : Nat) (group : String) (p : Scene) : Prop where
  older : ∀ load ∈ known, load ∈ p.cache.loads.keys
  count_le : count ≤ p.inquiries.length
  kept : ∀ members, p.cache.kept.get? group = some members → p.origin group ∉ known
  underWay : ∀ load, p.IsUnderWay load group → load ∉ known
  asked : ∀ x ∈ p.inquiries.drop count, x.group = group → x.stage.load ∉ known

namespace IsSince

variable {known : List Nat} {count : Nat}

/-- One more who asks depends on a look-up of later. -/
theorem inquire (h : IsSince known count group p) {x : Inquiry}
    (hx : x.group = group → x.stage.load ∉ known) :
    IsSince known count group { p with inquiries := p.inquiries ++ [x] } := by
  refine ⟨h.older, ?_, h.kept, h.underWay, ?_⟩
  · exact Nat.le_trans h.count_le (by simp)
  · change ∀ y ∈ (p.inquiries ++ [x]).drop count, _
    rw [List.drop_append_of_le_length h.count_le]
    exact List.forall_mem_append.2 ⟨h.asked, List.forall_mem_singleton.2 hx⟩

theorem begin (h : IsSince known count group p) (hc : p.IsCoherent) (g : String) :
    IsSince known count group (p.withCache { p.cache with
      loads := p.cache.loads.insert p.cache.loads.size ⟨g, none⟩ }) := by
  refine ⟨fun n hn => Table.mem_keys_insert_iff.2 (.inr (h.older n hn)), h.count_le, h.kept, ?_,
    h.asked⟩
  intro n hn
  rcases Table.get?_insert_eq_some_iff.1 hn with ⟨rfl, -⟩ | ⟨-, hn⟩
  · exact fun hk => hc.size_notMem (h.older _ hk)
  · exact h.underWay n hn

/-- A look-up ends. What is kept then was kept before, or was brought by a look-up of later. -/
theorem close (h : IsSince known count group p) {g : String} {result : Members}
    {kept : Table String (List String)} {origin : String → Nat}
    (hk : ∀ members, kept.get? group = some members → origin group ∉ known) :
    IsSince known count group { p.withCache { p.cache with
      kept, loads := p.cache.loads.insert load ⟨g, some result⟩ } with origin } := by
  refine ⟨fun n hn => Table.mem_keys_insert_iff.2 (.inr (h.older n hn)), h.count_le, hk, ?_,
    h.asked⟩
  intro n hn
  rcases Table.get?_insert_eq_some_iff.1 hn with ⟨-, he⟩ | ⟨-, hn⟩
  · cases he
  · exact h.underWay n hn

theorem bring (h : IsSince known count group p) {g : String} (hu : p.IsUnderWay load g)
    (members : List String) :
    IsSince known count group { p.withCache { p.cache with
        kept := if p.cache.keeps then p.cache.kept.insert g members else p.cache.kept
        loads := p.cache.loads.insert load ⟨g, some (.ok members)⟩ } with
      origin := if p.cache.keeps then Function.update p.origin g load else p.origin } := by
  refine h.close fun ms hg => ?_
  rcases kept_of_bring hg with ⟨hg, ho⟩ | ⟨rfl, ho, -⟩
  · rw [ho]
    exact h.kept ms hg
  · rw [ho]
    exact h.underWay load hu

theorem hear (h : IsSince known count group p) {number : Nat} {g : String} {members : Members}
    (hi : p.inquiries[number]? = some ⟨g, .waiting load⟩) :
    IsSince known count group
      { p with inquiries := p.inquiries.set number ⟨g, .told load members⟩ } := by
  refine ⟨h.older, ?_, h.kept, h.underWay, ?_⟩
  · exact Nat.le_trans h.count_le (by simp)
  · change ∀ y ∈ (p.inquiries.set number _).drop count, _
    rw [List.drop_set]
    split
    · exact h.asked
    · rename_i hn
      intro y hy hg
      rcases List.mem_or_eq_of_mem_set hy with hy | rfl
      · exact h.asked y hy hg
      · -- it waited for the same look-up before
        refine h.asked ⟨g, .waiting load⟩ (List.mem_of_getElem? (i := number - count) ?_) hg
        rw [List.getElem?_drop, Nat.add_sub_cancel' (Nat.le_of_not_lt hn), hi]

theorem drop (h : IsSince known count group p) (server : Server) (g : String) :
    IsSince known count group ({ p with server }.withCache (p.cache.invalidate g)) := by
  refine ⟨h.older, h.count_le, fun members hg => ?_, h.underWay, h.asked⟩
  exact h.kept members (Cache.kept_invalidate hg).2

theorem step (h : IsSince known count group p) (hc : p.IsCoherent) (hs : Step p q) :
    IsSince known count group q := by
  cases hs with
  | aside | replied => exact ⟨h.older, h.count_le, h.kept, h.underWay, h.asked⟩
  | answered hk =>
      refine h.inquire fun hg => ?_
      subst hg
      exact h.kept _ hk
  | joined hu =>
      refine h.inquire fun hg => ?_
      subst hg
      exact h.underWay _ hu
  | begun => exact (h.begin hc _).inquire fun _ hk => hc.size_notMem (h.older _ hk)
  | brought hu => exact h.bring hu _
  | failed => exact h.close h.kept
  | heard hi => exact h.hear hi
  | dropped server g => exact h.drop server g

theorem run (h : IsSince known count group p) (hc : p.IsCoherent) (moves : List Move) :
    IsSince known count group (p.run moves) :=
  (run_of_step (I := fun q => q.IsCoherent ∧ IsSince known count group q)
    (fun hq hs => ⟨hq.1.step hs, hq.2.step hq.1 hs⟩) ⟨hc, h⟩ moves).2

end IsSince

/-- Whether a move drops a group: at once, or because it is the first that is noted. -/
def Drops (p : Scene) (group : String) (m : Move) : Prop :=
  m = .drop group ∨ m = .heed ∧ p.server.invalidations.head? = some group

theorem Drops.step {m : Move} (h : p.Drops group m) :
    ∃ server, p.move m = { p with server }.withCache (p.cache.invalidate group) := by
  rcases h with rfl | ⟨rfl, hd⟩
  · exact ⟨p.server, rfl⟩
  · obtain ⟨rest, hr⟩ := List.head?_eq_some_iff.1 hd
    refine ⟨{ p.server with invalidations := rest }, ?_⟩
    change { p with server := p.server.heed } = _
    rw [Server.heed, hr]
    rfl

/-- Where no look-up of a group is under way, a new age begins when the group is dropped. -/
theorem Drops.isSince {m : Move} (h : p.Drops group m) (hn : ∀ load, ¬ p.IsUnderWay load group) :
    IsSince p.cache.loads.keys p.inquiries.length group (p.move m) := by
  obtain ⟨server, hm⟩ := h.step
  rw [hm]
  refine ⟨fun _ => id, Nat.le_refl _, fun members hg => ?_, fun load hu => absurd hu (hn load), ?_⟩
  · exact absurd rfl (Cache.kept_invalidate hg).1
  · change ∀ x ∈ p.inquiries.drop p.inquiries.length, _
    rw [List.drop_length]
    exact List.forall_mem_nil _

/-! ### All that goes on -/

/-- Whoever waits for a look-up when it ends hears of it, whatever comes in between. -/
theorem IsCoherent.heard_of_result (h : p.IsCoherent) {m : Move} (hu : p.IsUnderWay load group)
    {result : Members} (hr : (p.move m).cache.result? load = some result) {number : Nat}
    {g : String} (hi : p.inquiries[number]? = some ⟨g, .waiting load⟩) (later : List Move) :
    (((p.move m).run later).hear number).inquiries[number]? = some ⟨g, .told load result⟩ := by
  have hs := step_move p m
  have hdue : (p.move m).IsDue number g load result := by
    refine ⟨hr, .inl ?_⟩
    rcases inquiry_step hs hi with hi | ⟨n, told, he, hn, -⟩
    · exact hi
    · cases he
      cases hu.result?_eq_none.symm.trans hn
  exact (hdue.run (h.step hs) later).hear

/-- Whoever asks for a group after it was dropped, while no look-up of it was under way, is told
what the source has replied since then. -/
theorem IsCoherent.told_after_drop (h : p.IsCoherent) {m : Move} (hd : p.Drops group m)
    (hn : ∀ load, ¬ p.IsUnderWay load group) {later : List Move} {number : Nat}
    {members : List String} (hle : p.inquiries.length ≤ number)
    (hi : ((p.move m).run later).inquiries[number]? = some ⟨group, .told load (.ok members)⟩) :
    load ∉ p.cache.loads.keys ∧ (p.move m).HasReplied later load group (.ok members) := by
  have hmove := h.step (step_move p m)
  have hsince := (hd.isSince hn).run hmove later
  have hnew : load ∉ p.cache.loads.keys := by
    refine hsince.asked ⟨group, .told load (.ok members)⟩ ?_ rfl
    refine List.mem_of_getElem? (i := number - p.inquiries.length) ?_
    rw [List.getElem?_drop, Nat.add_sub_cancel' hle, hi]
  refine ⟨hnew, ?_⟩
  rcases hmove.told hi with hr | hr | hr
  · -- no reply was there before to a look-up that had not begun
    obtain ⟨server, hm⟩ := hd.step
    have hold := hmove.replied load (Table.mem_keys_iff.2 ⟨_, hr⟩)
    rw [hm] at hold
    exact absurd hold hnew
  · exact hr
  · cases hr

/-- One who asks for a group of which nothing is kept joins those who wait for the look-up. -/
theorem IsCoherent.ask_eq (h : p.IsCoherent) (hk : p.cache.kept.get? group = none)
    (hu : p.IsUnderWay load group) :
    p.ask group = { p with inquiries := p.inquiries ++ [⟨group, .waiting load⟩] } := by
  have hl : p.cache.loading? group = some load := by
    cases hl : p.cache.loading? group with
    | none => exact absurd hu (loading?_eq_none hl load)
    | some n => exact congrArg some (h.single n load group (Cache.loading?_eq_some hl) hu)
  have ha : p.cache.ask group = (.await load, p.cache) := by
    rw [Cache.ask, hk]
    simp only [hl]
  unfold ask
  rw [ha]
  rfl

/-- Whether nobody is left without an answer. Whoever asks is told what is kept, or waits for the
look-up that is under way, or for a new one if none is. The source, which may change, replies to a
look-up, and this ends with the reply or because it takes too long. Members that it brings are kept,
if anything is. A group that is said to have changed stands last among those to be dropped, and one
that is dropped is no longer kept, while all else stays. -/
structure IsResponsive (p : Scene) : Prop where
  told : ∀ group members, p.cache.kept.get? group = some members →
    (p.move (.ask group)).inquiries =
      p.inquiries ++ [⟨group, .told (p.origin group) (.ok members)⟩]
  joins : ∀ load group, p.cache.kept.get? group = none → p.IsUnderWay load group →
    (p.move (.ask group)).inquiries = p.inquiries ++ [⟨group, .waiting load⟩]
  begins : ∀ group, p.cache.kept.get? group = none → (∀ load, ¬ p.IsUnderWay load group) →
    ∃ load ∉ p.cache.loads.keys, (p.move (.ask group)).IsUnderWay load group ∧
      (p.move (.ask group)).inquiries = p.inquiries ++ [⟨group, .waiting load⟩]
  changed : ∀ source, (p.move (.change source)).source = source
  replied : ∀ load group, p.IsUnderWay load group → p.replies.get? load = none →
    (p.move (.reply load)).replies.get? load = some (p.source group)
  finished : ∀ load group result, p.IsUnderWay load group → p.replies.get? load = some result →
    (p.move (.finish load)).cache.result? load = some result
  expired : ∀ load group, p.IsUnderWay load group →
    (p.move (.expire load)).cache.result? load = some (.error (Cache.tooSlow group))
  stored : ∀ load group members, p.IsUnderWay load group →
    p.replies.get? load = some (.ok members) → (p.move (.finish load)).cache.kept =
      if p.cache.keeps then p.cache.kept.insert group members else p.cache.kept
  noted : ∀ group, p.server.listens = true →
    (p.move (.note group)).server.invalidations = p.server.invalidations ++ [group]
  dropped : ∀ m group, p.Drops group m → (p.move m).cache.kept.get? group = none ∧
    (∀ other, other ≠ group → (p.move m).cache.kept.get? other = p.cache.kept.get? other) ∧
      (p.move m).cache.loads = p.cache.loads

theorem IsCoherent.isResponsive (h : p.IsCoherent) : p.IsResponsive where
  told _ _ hk := congrArg inquiries (ask_of_kept hk)
  joins _ _ hk hu := congrArg inquiries (h.ask_eq hk hu)
  begins group hk hn := by
    have ha : p.move (.ask group) = _ := ask_of_load hk hn
    rw [ha]
    exact ⟨p.cache.loads.size, h.size_notMem, Table.get?_insert_self .., rfl⟩
  changed _ := rfl
  replied load group hu hr := by
    have hm : p.move (.reply load) = _ := reply_eq hu hr
    rw [hm]
    exact Table.get?_insert_self ..
  finished load group result hu hr := by
    have hm : p.move (.finish load) = _ := finish_eq hu hr
    rw [hm]
    exact result?_close hu result
  expired load group hu := by
    have hm : p.move (.expire load) = _ := expire_eq hu
    rw [hm]
    exact result?_close hu _
  stored load group members hu hr := by
    have hm : p.move (.finish load) = _ := finish_eq hu hr
    rw [hm]
    exact kept_close hu members
  noted group hl := by
    change (Server.note group p.server).2.invalidations = _
    rw [Server.note, hl]
    rfl
  dropped m group hd := by
    obtain ⟨server, hm⟩ := hd.step
    rw [hm]
    refine ⟨Table.get?_erase_self .., fun other ho => ?_, rfl⟩
    exact (Table.get?_erase ..).trans (if_neg ho)

/-- Whatever goes on, in whatever order. One look-up of a group goes on at a time. Whoever asks for
a group is told what the source has replied to a look-up of that group, or that it took too long. A
look-up that ends is heard of alike by all who wait for it, whatever comes in between, and if it
fails the cache stays as it was; nobody who asks is left without an answer. If no look-up of a group
is under way when the group is dropped, whoever asks for it later and is told members is told what
the source has replied since then, to a look-up that began since then. -/
theorem coherent_over_moves (server : Server) (keeps : Bool) (source : String → Members)
    (moves : List Move) :
    let start := new server keeps source
    let p := start.run moves
    (∀ a b group, p.IsUnderWay a group → p.IsUnderWay b group → a = b) ∧
      (∀ (number : Nat) group load members,
        p.inquiries[number]? = some ⟨group, .told load members⟩ →
        start.HasReplied moves load group members ∨ members = .error (Cache.tooSlow group)) ∧
      (∀ m load group result, p.IsUnderWay load group →
        (p.move m).cache.result? load = some result →
        ((∃ fault, result = .error fault) → (p.move m).cache.kept = p.cache.kept ∧
          ∀ other, other ≠ load → (p.move m).cache.loads.get? other = p.cache.loads.get? other) ∧
        ∀ (number : Nat) g, p.inquiries[number]? = some ⟨g, .waiting load⟩ → ∀ later,
          (((p.move m).run later).hear number).inquiries[number]? =
            some ⟨g, .told load result⟩) ∧
      p.IsResponsive ∧
      ∀ m group, p.Drops group m → (∀ load, ¬ p.IsUnderWay load group) →
        ∀ later (number : Nat) load members, p.inquiries.length ≤ number →
          ((p.move m).run later).inquiries[number]? = some ⟨group, .told load (.ok members)⟩ →
          load ∉ p.cache.loads.keys ∧
            (p.move m).HasReplied later load group (.ok members) := by
  intro start p
  have hstart := IsCoherent.new server keeps source
  have hp : p.IsCoherent := (hstart.run moves).1
  refine ⟨hp.single, ?_, ?_, hp.isResponsive, ?_⟩
  · intro number group load members hi
    refine (hstart.told hi).resolve_left fun hr => ?_
    cases hr
  · intro m load group result hu hr
    refine ⟨?_, fun number g hi later => hp.heard_of_result hu hr hi later⟩
    rintro ⟨fault, rfl⟩
    exact (step_move p m).of_failed hu hr
  · exact fun m group hd hn later number load members hle hi => hp.told_after_drop hd hn hle hi

/-- Two ask for a group, and the look-up takes too long. Both hear of it, though by then the group
was dropped and looked up again. One who asked after it was dropped is told what the later look-up
has brought. -/
theorem coherent_over_moves_of_timeout :
    let p := (new (Server.new {}) true fun _ => .ok ["a"]).run [.ask "g", .ask "g"]
    let late := p.move (.expire 0)
    let later : List Move := [.ask "g", .reply 1, .finish 1, .hear 2]
    let q := late.run (.drop "g" :: later)
    p.IsUnderWay 0 "g" ∧ p.inquiries[0]? = some ⟨"g", .waiting 0⟩ ∧
      p.inquiries[1]? = some ⟨"g", .waiting 0⟩ ∧ late.cache.kept = p.cache.kept ∧
      (q.hear 0).inquiries[0]? = some ⟨"g", .told 0 (.error (Cache.tooSlow "g"))⟩ ∧
      (q.hear 1).inquiries[1]? = some ⟨"g", .told 0 (.error (Cache.tooSlow "g"))⟩ ∧
      q.inquiries[2]? = some ⟨"g", .told 1 (.ok ["a"])⟩ ∧ 1 ∉ late.cache.loads.keys ∧
      (late.move (.drop "g")).HasReplied later 1 "g" (.ok ["a"]) := by
  intro p late later q
  obtain ⟨-, -, ends, responsive, -⟩ := coherent_over_moves (Server.new {}) true
    (fun _ => .ok ["a"]) [.ask "g", .ask "g"]
  have underWay : p.IsUnderWay 0 "g" := rfl
  have result := responsive.expired 0 "g" underWay
  obtain ⟨failed, heard⟩ := ends (.expire 0) 0 "g" _ underWay result
  obtain ⟨-, -, -, -, fresh⟩ := coherent_over_moves (Server.new {}) true
    (fun _ => .ok ["a"]) ([.ask "g", .ask "g"] ++ [.expire 0])
  rw [run_concat] at fresh
  have ended : ∀ load, ¬ late.IsUnderWay load "g" := by
    intro load hl
    rcases Table.get?_insert_eq_some_iff.1 hl with ⟨-, he⟩ | ⟨hne, hl⟩
    · cases he
    · rcases Table.get?_insert_eq_some_iff.1 hl with ⟨rfl, -⟩ | ⟨-, hl⟩
      · exact hne rfl
      · cases hl
  have told : ((late.move (.drop "g")).run later).inquiries[2]? =
      some ⟨"g", .told 1 (.ok ["a"])⟩ := by rfl
  obtain ⟨new, replied⟩ := fresh (.drop "g") "g" (.inl rfl) ended later 2 1 ["a"] (Nat.le_refl 2)
    told
  rw [← run_cons] at told
  exact ⟨underWay, rfl, rfl, (failed ⟨_, rfl⟩).1, heard 0 "g" rfl (.drop "g" :: later),
    heard 1 "g" rfl (.drop "g" :: later), told, new, replied⟩

/-! ### A group that is dropped while it is looked up -/

/-- One who asks while a look-up is under way is told the reply to it. -/
theorem IsCoherent.told_reply (h : p.IsCoherent) (hk : p.cache.kept.get? group = none)
    (hu : p.IsUnderWay load group) {members : Members} (hr : p.replies.get? load = some members) :
    let number := p.inquiries.length
    (p.run [.ask group, .finish load, .hear number]).inquiries[number]? =
      some ⟨group, .told load members⟩ := by
  intro number
  let q : Scene := { p with inquiries := p.inquiries ++ [⟨group, .waiting load⟩] }
  have hdue : (q.finish load).IsDue number group load members := by
    rw [finish_eq (p := q) hu hr]
    exact ⟨result?_close (p := q) hu members, .inl List.getElem?_concat_length⟩
  change (((p.ask group).finish load).hear number).inquiries[number]? = _
  rw [h.ask_eq hk hu]
  exact hdue.hear

/-- Where a look-up of a group is under way to which the source has replied, one who asks after the
group is dropped may be told that reply. -/
theorem IsCoherent.told_before_drop (h : p.IsCoherent) {m : Move} (hd : p.Drops group m)
    (hu : p.IsUnderWay load group) {members : Members} (hr : p.replies.get? load = some members) :
    let number := p.inquiries.length
    ((p.move m).run [.ask group, .finish load, .hear number]).inquiries[number]? =
      some ⟨group, .told load members⟩ := by
  have hc := h.step (step_move p m)
  obtain ⟨server, hm⟩ := hd.step
  rw [hm] at hc ⊢
  exact hc.told_reply (Table.get?_erase_self ..) hu hr

example (server : Server) :
    let moves : List Move := [.ask "g", .reply 0, .change fun _ => .ok ["b"], .drop "g",
      .ask "g", .finish 0, .hear 1]
    ((new server true fun _ => .ok ["a"]).run moves).inquiries[1]? =
      some ⟨"g", .told 0 (.ok ["a"])⟩ := by rfl

/-! ### A look-up while no time passes -/

section LookUp

variable {outside : Collaborators} {members : List String}

theorem lookUp_eq_kept (hk : p.cache.kept.get? group = some members) :
    Server.lookUp outside group p.server = (.ok members, p.server) := by
  have ha : p.server.groups.ask group = _ := ask_eq_kept hk
  unfold Server.lookUp
  simp only [Bind.bind, StateT.bind, Server.withGroups, ha]
  rfl

theorem lookUp_eq_load (hk : p.cache.kept.get? group = none)
    (hn : ∀ load, ¬ p.IsUnderWay load group) :
    Server.lookUp outside group p.server = (outside.members group, { p.server with
      groups := Cache.settle { p.cache with
        loads := p.cache.loads.insert p.cache.loads.size ⟨group, none⟩ }
          p.cache.loads.size (outside.members group) }) := by
  have ha : p.server.groups.ask group = _ := ask_eq_load hk hn
  unfold Server.lookUp
  simp only [Bind.bind, StateT.bind, Server.withGroups, ha]
  rfl

theorem reply_eq_self (hl : p.cache.loads.get? load = none) : p.reply load = p := by
  unfold reply
  rw [hl]

theorem finish_eq_self (hl : p.cache.loads.get? load = none) : p.finish load = p := by
  unfold finish
  rw [hl]

theorem hear_eq_self {number : Nat} {members : Members}
    (hi : p.inquiries[number]? = some ⟨group, .told load members⟩) : p.hear number = p := by
  unfold hear
  rw [hi]

theorem server_hear (p : Scene) (number : Nat) : (p.hear number).server = p.server := by
  unfold hear
  split
  · split <;> rfl
  · rfl

/-- The service looks a group up by four moves, if no look-up of it is under way: someone asks, the
source replies, the look-up ends with the reply, and the one who asked hears of it. -/
theorem IsCoherent.lookUp_eq_run (h : p.IsCoherent) (hn : ∀ load, ¬ p.IsUnderWay load group)
    (hs : p.source = outside.members) :
    let load := p.cache.loads.size
    let number := p.inquiries.length
    let q := p.run [.ask group, .reply load, .finish load, .hear number]
    q.server = (Server.lookUp outside group p.server).2 ∧ ∃ load, q.inquiries[number]? =
      some ⟨group, .told load (Server.lookUp outside group p.server).1⟩ := by
  intro load number q
  have hq : q = (((p.ask group).reply load).finish load).hear number := rfl
  have hnone : p.cache.loads.get? load = none :=
    Option.eq_none_iff_forall_ne_some.2 fun l hl => h.size_notMem (Table.mem_keys_iff.2 ⟨l, hl⟩)
  cases hk : p.cache.kept.get? group with
  | some members =>
      let told : Scene :=
        { p with inquiries := p.inquiries ++ [⟨group, .told (p.origin group) (.ok members)⟩] }
      have hi : told.inquiries[number]? = some ⟨group, .told (p.origin group) (.ok members)⟩ :=
        List.getElem?_concat_length
      have htold : q = told := by
        rw [hq, ask_of_kept hk, reply_eq_self (p := told) hnone, finish_eq_self (p := told) hnone,
          hear_eq_self (p := told) hi]
      rw [lookUp_eq_kept hk, htold]
      exact ⟨rfl, _, hi⟩
  | none =>
      let begun : Scene := { p.withCache { p.cache with
        loads := p.cache.loads.insert load ⟨group, none⟩ } with
          inquiries := p.inquiries ++ [⟨group, .waiting load⟩] }
      let replied : Scene :=
        { begun with replies := begun.replies.insert load (begun.source group) }
      have hu : begun.IsUnderWay load group := Table.get?_insert_self ..
      have hfresh : begun.replies.get? load = none :=
        Option.eq_none_iff_forall_ne_some.2 fun m hm =>
          h.size_notMem (h.replied load (Table.mem_keys_iff.2 ⟨m, hm⟩))
      have hr : replied.replies.get? load = some (begun.source group) := Table.get?_insert_self ..
      have hlast : q = (replied.close load group (begun.source group)).hear number := by
        rw [hq, ask_of_load hk hn, reply_eq (p := begun) hu hfresh, finish_eq (p := replied) hu hr]
      have hdue : (replied.close load group (begun.source group)).IsDue number group load
          (begun.source group) :=
        ⟨result?_close (p := replied) hu _, .inl List.getElem?_concat_length⟩
      have hsource : begun.source group = outside.members group := congrFun hs group
      rw [lookUp_eq_load hk hn, hlast, server_hear, ← hsource]
      exact ⟨rfl, load, hdue.hear⟩

end LookUp

end Scene

end Courier.Group
