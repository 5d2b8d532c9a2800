import PhoneticSearch.Proofs.Alignment.Projection
import PhoneticSearch.Proofs.Alignment.Restriction
import PhoneticSearch.Proofs.Corpus.Group
import PhoneticSearch.Search.Location
import PhoneticSearch.Tier.Derived

/-!
# The alignment seen from a part of a group

A group, a word or a syllable sees of the alignment of its group what lies in its elements on both
sides (`SearchObject.SeesAlignment`).  Of the group it is required only that its alignment matches
phones with phones, which every group does that was put together (`sees_alignment`).  It is written
with these phones, and with a sign on the sides that have none
(`Alignment.Matches.renderSide_phone`, `Alignment.Matches.renderSide_eq_sign`).  The elements
of a syllable on the other side are the hull of the partners of its own, so that its phones keep
their partners.

A hit in a transcription is carried to the other one by the same projection
(`SearchObject.aligned?_place`), which is tight (`Group.projection_tight`).
-/

namespace PhoneticSearch

/-! ### What an alignment shows -/

namespace Alignment.Matches

variable {a : Alignment} {t : Side → Transcription} {p : AlignedPair} {side : Side}

/-- On a side with a position stands the phone that is there. -/
theorem renderSide_phone (h : a.Matches t) (hp : p ∈ a.pairs) {k : Nat} (hk : p.at side = some k) :
    ∃ phone, (t side).phoneAt? k = some phone ∧
      renderSide (t side) (p.at side) = phone.text := by
  obtain ⟨phone, hphone⟩ := Transcription.mem_phonePositions.mp
    (h.phones side k (List.mem_filterMap.mpr ⟨p, hp, hk⟩))
  refine ⟨phone, hphone, ?_⟩
  rw [hk, renderSide, Option.bind_some, hphone]

/-- The sign for no phone stands where a pair has no position, and for a phone that is written
like it. -/
theorem renderSide_eq_sign (h : a.Matches t) (hp : p ∈ a.pairs) :
    renderSide (t side) (p.at side) = ['∅'] ↔ p.at side = none ∨
      ∃ k phone, p.at side = some k ∧ (t side).phoneAt? k = some phone ∧ phone.text = ['∅'] := by
  cases hk : p.at side with
  | none => simp [renderSide]
  | some k =>
    obtain ⟨phone, hphone, hshown⟩ := h.renderSide_phone hp hk
    rw [← hk, hshown, hk]
    simp [hphone]

end Alignment.Matches

/-! ### Parts of a group -/

namespace SearchObject

/-- What a part of a group sees of the alignment of the group. -/
structure SeesAlignment (o : SearchObject) : Prop where
  /-- No position is in two pairs. -/
  nodup : ∀ side, (o.alignment.positions side).Nodup
  /-- Every pair has a position. -/
  nonempty : ⟨none, none⟩ ∉ o.alignment.pairs
  /-- Partners are what the group aligns, as far as both belong to the part. -/
  partner : ∀ side k, k < (o.elementSpan side).length → ∀ l,
    o.alignment.partner? side k = some l ↔
      o.group.alignment.partner? side ((o.elementSpan side).start + k) =
          some ((o.elementSpan side.other).start + l) ∧
        (o.elementSpan side.other).contains ((o.elementSpan side.other).start + l) = true
  /-- Positions behind the part have no partners. -/
  partner_behind : ∀ side k, (o.elementSpan side).length ≤ k → o.alignment.partner? side k = none
  /-- Positions are those of phones. -/
  phones : ∀ side, ∀ k ∈ o.alignment.positions side,
    ∃ p, (o.transcription side).phoneAt? k = some p
  /-- The alignment is written pair by pair, with what stands on the two sides of each. -/
  rendered : TierRequest.alignment.render o = some (Text.join [' '] (o.alignment.pairs.map fun p =>
    Alignment.renderSide (o.transcription .target) (p.at .target) ++
      '↔' :: Alignment.renderSide (o.transcription .actual) (p.at .actual)))
  /-- On a side with a position stands the phone that is there. -/
  shown : ∀ p ∈ o.alignment.pairs, ∀ side k, p.at side = some k → ∃ phone,
    (o.transcription side).phoneAt? k = some phone ∧
      Alignment.renderSide (o.transcription side) (p.at side) = phone.text
  /-- The sign for no phone stands where a pair has no position, and for a phone that is written
  like it. -/
  sign : ∀ p ∈ o.alignment.pairs, ∀ side,
    Alignment.renderSide (o.transcription side) (p.at side) = ['∅'] ↔ p.at side = none ∨
      ∃ k phone, p.at side = some k ∧ (o.transcription side).phoneAt? k = some phone ∧
        phone.text = ['∅']
  /-- It stands on both sides only if there is such a phone on one of them. -/
  sign_both : ∀ p ∈ o.alignment.pairs,
    (∀ side, Alignment.renderSide (o.transcription side) (p.at side) = ['∅']) →
      ∃ side k phone, p.at side = some k ∧ (o.transcription side).phoneAt? k = some phone ∧
        phone.text = ['∅']
  /-- The phones of a syllable keep their partners. -/
  syllable : ∀ s, o = .syllable s → ∀ i j, s.span.contains i = true →
    o.group.alignment.partner? s.side i = some j →
      ∃ k l, i = s.span.start + k ∧ j = (o.elementSpan s.side.other).start + l ∧
        o.alignment.partner? s.side k = some l

theorem elementSpan_own (s : SyllableView) : (syllable s).elementSpan s.side = s.span := by
  rw [elementSpan, elementSpan?, SyllableView.elementSpan?, if_pos rfl]
  rfl

theorem elementSpan_other (s : SyllableView) : (syllable s).elementSpan s.side.other =
    ((syllable s).group.alignment.project s.side s.span).getD ⟨0, 0⟩ := by
  have hne : s.side.other ≠ s.side := by cases s.side <;> decide
  rw [elementSpan, elementSpan?, SyllableView.elementSpan?, if_neg hne]
  rfl

variable {o : SearchObject}

theorem partner?_alignment (h : o.group.alignment.Matches o.group.transcription) {side : Side}
    {k l : Nat} : o.alignment.partner? side k = some l ↔
      k < (o.elementSpan side).length ∧ l < (o.elementSpan side.other).length ∧
        o.group.alignment.partner? side ((o.elementSpan side).start + k) =
          some ((o.elementSpan side.other).start + l) :=
  h.partner?_restrict (r := o.elementSpan)

/-- The phones of a syllable have their partners in the elements of its other side. -/
theorem exists_partner_syllable {s : SyllableView}
    (h : (syllable s).group.alignment.Matches (syllable s).group.transcription) {i j : Nat}
    (hi : s.span.contains i = true)
    (hj : (syllable s).group.alignment.partner? s.side i = some j) :
    ∃ k l, i = s.span.start + k ∧ j = ((syllable s).elementSpan s.side.other).start + l ∧
      (syllable s).alignment.partner? s.side k = some l := by
  obtain ⟨projected, hprojected, hin⟩ := h.exists_project hi hj
  have hother : (syllable s).elementSpan s.side.other = projected := by
    rw [elementSpan_other, hprojected, Option.getD_some]
  obtain ⟨k, hk, rfl⟩ := Span.contains_iff_exists.mp hi
  obtain ⟨l, hl, rfl⟩ := Span.contains_iff_exists.mp hin
  refine ⟨k, l, rfl, by rw [hother], ?_⟩
  rw [partner?_alignment h, elementSpan_own, hother]
  exact ⟨hk, hl, hj⟩

theorem seesAlignment_of_matches (h : o.group.alignment.Matches o.group.transcription) :
    o.SeesAlignment := by
  have hmatches : o.alignment.Matches o.transcription := h.restrict o.elementSpan
  have hnonempty : ∀ p ∈ o.alignment.pairs, p ≠ ⟨none, none⟩ := by
    intro p hp
    have hpairs := o.group.alignment.pairs_restrict o.elementSpan
    rw [show o.alignment.pairs = _ from hpairs, List.mem_filter] at hp
    exact of_decide_eq_true hp.2
  refine
    { nodup := hmatches.nodup
      nonempty := fun hp => hnonempty _ hp rfl
      partner := fun side k hk l => ?_
      partner_behind := fun side k hk => ?_
      phones := fun side k hk => Transcription.mem_phonePositions.mp (hmatches.phones side k hk)
      rendered := rfl
      shown := fun p hp side k hk => hmatches.renderSide_phone hp hk
      sign := fun p hp side => hmatches.renderSide_eq_sign hp
      sign_both := fun p hp hsigns => ?_
      syllable := ?_ }
  · rw [partner?_alignment h, Span.contains_iff_exists]
    constructor
    · rintro ⟨-, hl, hpartner⟩
      exact ⟨hpartner, l, hl, rfl⟩
    · rintro ⟨hpartner, l', hl, heq⟩
      obtain rfl := Nat.add_left_cancel heq
      exact ⟨hk, hl, hpartner⟩
  · refine Option.eq_none_iff_forall_ne_some.mpr fun l hl => ?_
    exact absurd ((partner?_alignment h).mp hl).1 (Nat.not_lt_of_le hk)
  · by_contra hphones
    refine hnonempty p hp (AlignedPair.eq_empty_iff.mpr fun side => ?_)
    refine ((hmatches.renderSide_eq_sign hp).mp (hsigns side)).resolve_right ?_
    rintro ⟨k, phone, hk⟩
    exact hphones ⟨side, k, phone, hk⟩
  · rintro s rfl i j hi hj
    exact exists_partner_syllable h hi hj

/-- **The alignment of a part.**  Every part of a group that was put together sees the alignment of
the group restricted to its own elements: the group itself, its words, be they there on both sides
or not, and the syllables of either side.  The alignment is written with the phones of its pairs
and the sign for no phone on the sides without one, which is not told from a phone that is written
like the sign (`phones_shown_as_none`). -/
theorem sees_alignment {table : FeatureTable} {w : Corpus.WrittenGroup} {g : Group}
    (h : w.build table = .ok g) (ho : o.group = g) : o.SeesAlignment := by
  subst ho
  exact seesAlignment_of_matches (Corpus.WrittenGroup.matches_of_build h)

/-- A group with two words of which one was said, and that from back to front. -/
def backwardsWritten : Corpus.WrittenGroup where
  orthography := "a cat".toList
  target := "ə ˈkæt".toList
  actual := "tæk".toList
  ordinals := some [(some 0, none), (some 1, some 2), (some 2, some 1), (some 3, some 0)]
  tiers := []

/-- The second word of a group. -/
def secondWord (g : Group) : SearchObject := scope (.word ⟨g, 0, 1⟩)

/-- The syllable that is the second target word of a group. -/
def secondSyllable (g : Group) : SearchObject :=
  syllable ⟨.word ⟨g, 0, 1⟩, .target, ⟨2, 6⟩, 0, .singleton, .primary⟩

/-- The second word has no actual elements, and its phones no partners; those of its syllable have
all of theirs. -/
theorem sees_alignment_backwards : ∃ g, backwardsWritten.build .builtin = .ok g ∧
    (secondWord g).group = g ∧ (secondWord g).SeesAlignment ∧
    (secondWord g).alignment.pairs = [⟨some 1, none⟩, ⟨some 2, none⟩, ⟨some 3, none⟩] ∧
    TierRequest.alignment.render (secondWord g) = some "k↔∅ æ↔∅ t↔∅".toList ∧
    (secondSyllable g).group = g ∧ (secondSyllable g).SeesAlignment ∧
    (secondSyllable g).alignment.pairs =
      [⟨some 1, some 2⟩, ⟨some 2, some 1⟩, ⟨some 3, some 0⟩] := by
  have hbuild : backwardsWritten.build .builtin = .ok _ := rfl
  exact ⟨_, hbuild, rfl, sees_alignment hbuild rfl, by decide +kernel, by decide +kernel, rfl,
    sees_alignment hbuild rfl, by decide +kernel⟩

/-- A group with one phone on each side, which is written like the sign for no phone. -/
def signWritten : Corpus.WrittenGroup where
  orthography := []
  target := ['∅']
  actual := ['∅']
  ordinals := some [(some 0, some 0)]
  tiers := []

/-- The phones of a pair are written like the sign for no phone. -/
theorem phones_shown_as_none : ∃ g, signWritten.build .builtin = .ok g ∧
    let o := scope (.group ⟨⟨none, none, [g], none, []⟩, g, 0⟩)
    o.alignment.pairs = [⟨some 0, some 0⟩] ∧ g.alignment.partner? .target 0 = some 0 ∧
      (∀ side, ((o.transcription side).phoneAt? 0).isSome = true) ∧
      TierRequest.alignment.render o = some "∅↔∅".toList := by
  refine ⟨_, rfl, by decide +kernel, by decide +kernel, ?_, by decide +kernel⟩
  intro side
  cases side <;> decide +kernel

end SearchObject

/-! ### Hits -/

namespace SearchObject

variable {o : SearchObject} {side : Side} {hit : Hit}

/-- The elements of a hit in a transcription of the group. -/
def elementsOf (o : SearchObject) (side : Side) (hit : Hit) : Span :=
  hit.span.shift (o.elementOffset (.ipa side))

/-- What is aligned with a hit that counts elements is the part of the other transcription that its
elements are projected to. -/
theorem aligned?_place (hit : Hit) (hcounts : hit.value.countsElements = true) :
    (o.place (.ipa side) hit).aligned? =
      (o.group.alignment.project side (o.elementsOf side hit)).map fun s =>
        ⟨side.other, s, (o.group.transcription side.other).subsection s⟩ := by
  have hin : hit.isInTranscription (.ipa side) = true := by
    rw [Hit.isInTranscription, hcounts]
    rfl
  have helements : (o.place (.ipa side) hit).elements? = some (o.elementsOf side hit) := by
    rw [PlacedHit.elements?, place, hitOffset, if_pos hin]
    exact if_pos hin
  rw [PlacedHit.aligned?, helements]
  show ((o.group.alignment.project side (o.elementsOf side hit)).bind fun s =>
    some (⟨side.other, s, (o.group.transcription side.other).subsection s⟩ : AlignedHit)) = _
  cases o.group.alignment.project side (o.elementsOf side hit) <;> rfl

end SearchObject

/-- **Projections are tight.**  In a group that was put together a span has a projection if and only
if one of its positions has a partner.  The projection is then the least span with all the partners
and starts and ends with one of them, it lies within the other transcription, it grows with the
span, and it leads back to every position that has a partner.  Positions that are words have the
same projection.  What is aligned with a hit is the part of the other transcription that the
elements of the hit are projected to. -/
theorem Group.projection_tight {table : FeatureTable} {w : Corpus.WrittenGroup} {g : Group}
    (h : w.build table = .ok g) (side : Side) :
    (∀ span, g.alignment.project side span = none ↔
      ∀ i, span.contains i = true → g.alignment.partner? side i = none) ∧
    (∀ span s, g.alignment.project side span = some s →
      s.IsHull (g.alignment.PartnerOf side span) ∧
      (∀ s' : Span, (∀ j, g.alignment.PartnerOf side span j → s'.contains j = true) →
        s'.encloses s = true) ∧
      s.stop ≤ (g.transcription side.other).length ∧
      (∀ span' : Span, (∀ i, span.contains i = true → span'.contains i = true) →
        ∃ s', g.alignment.project side span' = some s' ∧ s'.encloses s = true) ∧
      ∀ i j, span.contains i = true → g.alignment.partner? side i = some j →
        ∃ s', g.alignment.project side.other s = some s' ∧ s'.contains i = true) ∧
    ((g.transcription side.other).length < Span.wordCount → ∀ span,
      g.alignment.project side span =
        let (low, high) := Alignment.extremes (g.alignment.partners side span)
        if low ≠ Span.wordCount - 1 then some ⟨low, (high + 1) % Span.wordCount⟩ else none) ∧
    ∀ o : SearchObject, o.group = g → ∀ hit : Hit, hit.value.countsElements = true →
      ((o.place (.ipa side) hit).aligned? = none ↔
        ∀ i, (o.elementsOf side hit).contains i = true → g.alignment.partner? side i = none) ∧
      ∀ s, g.alignment.project side (o.elementsOf side hit) = some s →
        (o.place (.ipa side) hit).aligned? =
          some ⟨side.other, s, (g.transcription side.other).subsection s⟩ := by
  have hmatches := Corpus.WrittenGroup.matches_of_build h
  refine ⟨fun span => hmatches.project_eq_none, fun span s hs => ?_, fun hlength span => ?_, ?_⟩
  · have hhull := hmatches.isHull_project hs
    exact ⟨hhull, fun s' => hhull.least, hmatches.project_stop_le hs,
      fun span' hle => hmatches.project_mono hle hs,
      fun i j hi hj => hmatches.exists_project_other hs hi hj⟩
  · rw [← hmatches.projectWord_eq_project hlength, Alignment.projectWord_eq_foldl]
    intro j hj
    obtain ⟨i, -, hpartner⟩ := hmatches.mem_partners.mp hj
    obtain ⟨p, hp⟩ := hmatches.partner?_phone hpartner
    obtain ⟨hlt, -⟩ := List.getElem?_eq_some_iff.mp (Transcription.phoneAt?_eq_some.mp hp)
    exact Nat.lt_trans hlt hlength
  · rintro o rfl hit hcounts
    rw [SearchObject.aligned?_place hit hcounts, Option.map_eq_none_iff, hmatches.project_eq_none]
    refine ⟨Iff.rfl, fun s hs => ?_⟩
    rw [hs, Option.map_some]

/-- The first two phones of the second word are carried to the last two of what was said, and back
to themselves. -/
theorem Group.projection_tight_backwards : ∃ g,
    SearchObject.backwardsWritten.build .builtin = .ok g ∧
    g.alignment.project .target ⟨3, 5⟩ = some ⟨1, 3⟩ ∧
    Span.IsHull ⟨1, 3⟩ (g.alignment.PartnerOf .target ⟨3, 5⟩) ∧
    (∃ s', g.alignment.project .actual ⟨1, 3⟩ = some s' ∧ s'.contains 4 = true) ∧
    ((SearchObject.secondWord g).place (.ipa .target)
      ⟨⟨1, 3⟩, .transcription (g.target.subsection ⟨3, 5⟩)⟩).aligned? =
        some ⟨.actual, ⟨1, 3⟩, g.actual.subsection ⟨1, 3⟩⟩ := by
  have hbuild : SearchObject.backwardsWritten.build .builtin = .ok _ := rfl
  obtain ⟨-, hsome, -, haligned⟩ := Group.projection_tight hbuild .target
  refine ⟨_, hbuild, ?project, (hsome ⟨3, 5⟩ ⟨1, 3⟩ ?project).1,
    (hsome ⟨3, 5⟩ ⟨1, 3⟩ ?project).2.2.2.2 4 1 rfl ?partner,
    (haligned (SearchObject.secondWord _) rfl _ rfl).2 _ ?placed⟩
  all_goals decide +kernel

end PhoneticSearch
