import PhoneticSearch.Proofs.Pattern.Found
import PhoneticSearch.Proofs.Phonex.Search
import PhoneticSearch.Proofs.Phonex.Segment

/-!
# Searching word by word

An expression without boundaries has no match across the break between two words, and a
search is where it would start anew once it has come to a break.  So its hits in a
transcription are its hits in the words, each moved to where its word starts
(`find_words`).
-/

namespace PhoneticSearch

namespace Phonex

/-! ### Scans without a bound on the steps -/

section Scan

variable {endsAt endsAt' : Nat → List Nat} {size : Nat}

/-- What a scan takes from a position on. -/
def scanFrom (endsAt : Nat → List Nat) (size start : Nat) : List Span :=
  scan endsAt size (size - start) start

/-- The bound on the steps does not matter, as long as the positions that are left fit
into it. -/
theorem scan_left : ∀ {left left' start : Nat}, size - start ≤ left → size - start ≤ left' →
    scan endsAt size left start = scan endsAt size left' start := by
  intro left
  induction left with
  | zero =>
    intro left' start hleft hleft'
    cases left' with
    | zero => rfl
    | succ left' => rw [scan_succ, if_neg (by omega), scan]
  | succ left ih =>
    intro left' start hleft hleft'
    by_cases hstart : start < size
    · cases left' with
      | zero => omega
      | succ left' =>
        rw [scan_succ, scan_succ, if_pos hstart, if_pos hstart]
        cases hfirst : firstEnd? endsAt start with
        | none => exact ih (by omega) (by omega)
        | some stop =>
          have hmoves := lt_of_firstEnd? hfirst
          exact congrArg _ (ih (by omega) (by omega))
    · rw [scan_succ, if_neg hstart]
      cases left' with
      | zero => rfl
      | succ left' => rw [scan_succ, if_neg hstart]

theorem scanFrom_end {start : Nat} (h : size ≤ start) : scanFrom endsAt size start = [] := by
  rw [scanFrom, Nat.sub_eq_zero_of_le h, scan]

theorem scanFrom_taken {start stop : Nat} (hstart : start < size)
    (hfirst : firstEnd? endsAt start = some stop) :
    scanFrom endsAt size start = ⟨start, stop⟩ :: scanFrom endsAt size stop := by
  have hmoves := lt_of_firstEnd? hfirst
  rw [scanFrom, scan_left (Nat.le_refl _) (Nat.le_succ _), scan_succ, if_pos hstart, hfirst]
  exact congrArg _ (scan_left (by omega) (Nat.le_refl _))

theorem scanFrom_passed {start : Nat} (hfirst : firstEnd? endsAt start = none) :
    scanFrom endsAt size start = scanFrom endsAt size (start + 1) := by
  by_cases hstart : start < size
  · rw [scanFrom, scan_left (Nat.le_refl _) (Nat.le_succ _), scan_succ, if_pos hstart, hfirst]
    exact scan_left (by omega) (Nat.le_refl _)
  · rw [scanFrom_end (by omega), scanFrom_end (by omega)]

theorem firstEnd?_moved {b p : Nat} (h : endsAt (b + p) = (endsAt' p).map (b + ·)) :
    firstEnd? endsAt (b + p) = (firstEnd? endsAt' p).map (b + ·) := by
  have honward : ((fun m => decide (b + p < m)) ∘ (b + ·)) = fun m => decide (p < m) := by
    funext m
    simp
  rw [firstEnd?, firstEnd?, h, List.find?_map, honward]

/-- Through a part with ends of its own a scan takes what it takes there alone, and comes to
the end of the part. -/
theorem scanFrom_segment {b k : Nat} (hsize : b + k ≤ size)
    (hmoved : ∀ p ≤ k, endsAt (b + p) = (endsAt' p).map (b + ·))
    (hwithin : ∀ p ≤ k, ∀ m ∈ endsAt' p, m ≤ k) {p : Nat} (hp : p ≤ k) :
    scanFrom endsAt size (b + p) =
      (scanFrom endsAt' k p).map (·.shift b) ++ scanFrom endsAt size (b + k) := by
  induction hmeasure : k - p using Nat.strongRecOn generalizing p with
  | ind measure ih =>
    rcases Nat.lt_or_eq_of_le hp with hlt | rfl
    · have hfirst := firstEnd?_moved (hmoved p hp)
      cases hfirst' : firstEnd? endsAt' p with
      | none =>
        rw [hfirst'] at hfirst
        rw [scanFrom_passed hfirst, scanFrom_passed hfirst', Nat.add_assoc]
        exact ih _ (by omega) hlt rfl
      | some stop =>
        have hmoves := lt_of_firstEnd? hfirst'
        have hstop := hwithin p hp stop (List.mem_of_find?_eq_some hfirst')
        rw [hfirst', Option.map_some] at hfirst
        rw [scanFrom_taken (by omega) hfirst, scanFrom_taken hlt hfirst', List.map_cons,
          List.cons_append, ih _ (by omega) hstop rfl, Nat.add_comm b p, Nat.add_comm b stop]
        rfl
    · rw [scanFrom_end (Nat.le_refl p), List.map_nil, List.nil_append]

end Scan

/-! ### Hits in a part -/

/-- Where the visible elements stand. -/
def places (t : Transcription) : List Nat := (visible t).map (·.2)

theorem length_places (t : Transcription) : (places t).length = (visibleElements t).length := by
  rw [places, List.length_map, length_visible]

theorem places_append (s t : Transcription) :
    places (s ++ t) = places s ++ (places t).map (s.length + ·) := by
  have hmoved : t.zipIdx s.length = t.zipIdx.map fun x => (x.1, s.length + x.2) :=
    List.zipIdx_eq_map_add
  simp only [places, visible, List.zipIdx_append, Nat.zero_add, hmoved, List.filter_append,
    List.map_append, List.filter_map, List.map_map]
  rfl

theorem place_lt {t : Transcription} {k : Nat} (hk : k < (visibleElements t).length) :
    (places t).getD k 0 < t.length := by
  rw [← length_visible] at hk
  have hget : (visible t)[k]? = some ((visible t)[k].1, (places t).getD k 0) := by
    rw [List.getElem?_eq_getElem hk, List.getD_eq_getElem?_getD, places, List.getElem?_map,
      List.getElem?_eq_getElem hk]
    rfl
  exact (List.getElem?_eq_some_iff.mp (visible_getElem? hget).1).1

variable {before word after : Transcription}

theorem places_middle {k : Nat} (hk : k < (visibleElements word).length) :
    (places (before ++ word ++ after)).getD (k + (visibleElements before).length) 0 =
      (places word).getD k 0 + before.length := by
  have hk' : k < (places word).length := by rwa [length_places]
  rw [List.append_assoc, places_append, places_append, List.map_append, ← length_places before,
    List.getD_eq_getElem?_getD, List.getElem?_append_right (Nat.le_add_left _ _),
    Nat.add_sub_cancel, List.getElem?_append_left (by rwa [List.length_map]), List.getElem?_map,
    List.getElem?_eq_getElem hk', List.getD_eq_getElem?_getD, List.getElem?_eq_getElem hk']
  exact Nat.add_comm _ _

/-- A hit in a part is the hit in the whole, moved to where the part starts. -/
theorem hitOf_moved {s : Span} (hlt : s.start < s.stop)
    (hstop : s.stop ≤ (visibleElements word).length) :
    hitOf (before ++ word ++ after) (places (before ++ word ++ after))
        (s.shift (visibleElements before).length) =
      (hitOf word (places word) s).shift before.length := by
  have hlast : s.stop - 1 < (visibleElements word).length := by omega
  have hspan : (hitOf (before ++ word ++ after) (places (before ++ word ++ after))
      (s.shift (visibleElements before).length)).span =
        (hitOf word (places word) s).span.shift before.length := by
    have hmove : s.stop + (visibleElements before).length - 1 =
        s.stop - 1 + (visibleElements before).length := by omega
    simp only [hitOf, Span.shift, hmove]
    rw [places_middle (Nat.lt_of_lt_of_le hlt hstop), places_middle hlast, Nat.add_right_comm]
  have hvalue : (hitOf word (places word) s).value = .transcription
      ((before ++ word ++ after).subsection
        ((hitOf word (places word) s).span.shift before.length)) := by
    have hwithin : (hitOf word (places word) s).span.stop ≤ word.length := place_lt hlast
    have hpart := Transcription.subsection_middle before word after
    rw [← hpart] at hwithin
    have hnested := Transcription.subsection_subsection hwithin
    rw [hpart] at hnested
    exact congrArg Value.transcription hnested
  rw [Hit.shift, hvalue, ← hspan]
  rfl

/-! ### Words -/

variable {root : Node}

/-- A search that has come to a word finds what it finds in the word alone, and goes on behind
it. -/
theorem scan_word (before word after : Transcription) (hfree : root.isBoundaryFree = true)
    (hafter : NoPhoneFirst (visibleElements after)) :
    let t := before ++ word ++ after
    let found := scanFrom (root.ends (visibleElements t)) (visibleElements t).length
    (found (visibleElements before).length).map (hitOf t (places t)) =
      (find root word).map (·.shift before.length) ++
        (found (visibleElements (before ++ word)).length).map (hitOf t (places t)) := by
  intro t found
  have hvisible : visibleElements t =
      visibleElements before ++ visibleElements word ++ visibleElements after := by
    rw [visibleElements_append, visibleElements_append]
  have hsegment : found ((visibleElements before).length + 0) =
      (foundSpans root word).map (·.shift (visibleElements before).length) ++
        found ((visibleElements before).length + (visibleElements word).length) := by
    refine scanFrom_segment ?_ (fun p hp => ?_) (fun p hp m hm => Node.ends_le hp hm)
      (Nat.zero_le _)
    · rw [hvisible, List.length_append, List.length_append]
      exact Nat.le_add_right _ _
    · rw [hvisible]
      exact Node.ends_segment hafter root hfree hp
  have hmoved : ∀ s ∈ foundSpans root word,
      hitOf t (places t) (s.shift (visibleElements before).length) =
        (hitOf word (places word) s).shift before.length := by
    intro s hs
    obtain ⟨-, hstart, hfirst⟩ := scan_taken _ 0 s hs
    have hends := List.mem_of_find?_eq_some hfirst
    exact hitOf_moved (lt_of_firstEnd? hfirst) (Node.ends_le (Nat.le_of_lt hstart) hends)
  rw [Nat.add_zero] at hsegment
  rw [visibleElements_append before word, List.length_append, find_eq]
  show (found _).map _ = _ ++ (found _).map _
  rw [hsegment, List.map_append, List.map_map, List.map_map]
  refine congrArg (· ++ _) (List.map_congr_left hmoved)

/-- A break is visible. -/
theorem visibleElements_break {e : Element} (he : e.isWordBreak = true) (t : Transcription) :
    visibleElements (e :: t) = e :: visibleElements t := by
  cases e with
  | wordBoundary | pause _ => simp [visibleElements_eq, Element.isTransparent]
  | phone _ | stress _ | syllableBoundary => cases he

/-- A break is no phone. -/
theorem noPhoneFirst_break {e : Element} (he : e.isWordBreak = true) (t : Transcription) :
    NoPhoneFirst (visibleElements (e :: t)) := by
  rw [visibleElements_break he]
  intro first hfirst
  obtain rfl : e = first := Option.some.inj hfirst
  cases e with
  | wordBoundary | pause _ => rfl
  | phone _ | stress _ | syllableBoundary => cases he

/-- A search passes over a break. -/
theorem scan_break (hfree : root.isBoundaryFree = true) {e : Element} (he : e.isWordBreak = true)
    (before after : Transcription) (size : Nat) :
    scanFrom (root.ends (visibleElements (before ++ e :: after))) size
        (visibleElements before).length =
      scanFrom (root.ends (visibleElements (before ++ e :: after))) size
        (visibleElements (before ++ [e])).length := by
  -- Nothing can be matched from the break on, as if nothing were there.
  have hends : root.ends (visibleElements before ++ [] ++ visibleElements (e :: after))
      ((visibleElements before).length + 0) =
        (root.ends [] 0).map ((visibleElements before).length + ·) :=
    Node.ends_segment (noPhoneFirst_break he after) root hfree (Nat.le_refl 0)
  rw [List.append_nil, Nat.add_zero] at hends
  have hnone : firstEnd? (root.ends (visibleElements (before ++ e :: after)))
      (visibleElements before).length = none := by
    rw [visibleElements_append, firstEnd?, hends, List.find?_eq_none]
    intro m hm
    obtain ⟨m', hm', rfl⟩ := List.mem_map.mp hm
    have hzero : m' ≤ ([] : List Element).length := Node.ends_le (Nat.le_refl 0) hm'
    rw [List.length_nil] at hzero
    simp only [decide_eq_true_eq]
    omega
  have hbehind : (visibleElements (before ++ [e])).length =
      (visibleElements before).length + 1 := by
    rw [visibleElements_append, List.length_append, visibleElements_break he []]
    rfl
  rw [scanFrom_passed hnone, hbehind]

/-- The hits in a word of a transcription, at their places in it. -/
def wordHits (root : Node) (t : Transcription) (s : Span) : List Hit :=
  (find root (t.subsection s)).map (·.shift s.start)

theorem wordHits_middle (root : Node) (before word after : Transcription) :
    (if before.length < before.length + word.length then
        [(⟨before.length, before.length + word.length⟩ : Span)] else []).flatMap
          (wordHits root (before ++ word ++ after)) =
      (find root word).map (·.shift before.length) := by
  split
  · rw [List.flatMap_singleton, wordHits, Transcription.subsection_middle]
  · have hempty : word = [] := List.eq_nil_of_length_eq_zero (by omega)
    subst hempty
    rfl

/-- Where `word` is what has been seen of a word that begins behind `before`. -/
theorem scan_words (hfree : root.isBoundaryFree = true) : ∀ (rest before word : Transcription),
    let t := before ++ word ++ rest
    (scanFrom (root.ends (visibleElements t)) (visibleElements t).length
        (visibleElements before).length).map (hitOf t (places t)) =
      (Transcription.wordSpansFrom before.length (before.length + word.length) rest).flatMap
        (wordHits root t) := by
  intro rest
  induction rest with
  | nil =>
    intro before word t
    have hword := scan_word before word [] hfree (fun e he => by cases he)
    have hend : (visibleElements t).length ≤ (visibleElements (before ++ word)).length :=
      Nat.le_of_eq (congrArg (fun t => (visibleElements t).length) (List.append_nil _))
    rw [Transcription.wordSpansFrom, wordHits_middle, hword, scanFrom_end hend, List.map_nil,
      List.append_nil]
  | cons e rest ih =>
    intro before word t
    by_cases he : e.isWordBreak = true
    · have hword := scan_word before word (e :: rest) hfree (noPhoneFirst_break he rest)
      have hbreak := scan_break hfree he (before ++ word) rest (visibleElements t).length
      have hrest := ih (before ++ word ++ [e]) []
      have hwhole : before ++ word ++ [e] ++ [] ++ rest = t := by
        simp [t]
      have hlength : (before ++ word ++ [e]).length = before.length + word.length + 1 := by
        simp only [List.length_append, List.length_singleton]
      simp only [hwhole, hlength, List.length_nil, Nat.add_zero] at hrest
      rw [Transcription.wordSpansFrom, if_pos he, List.flatMap_append, wordHits_middle, ← hrest,
        hword, hbreak]
    · have hrest := ih before (word ++ [e])
      have hwhole : before ++ (word ++ [e]) ++ rest = t := by
        simp [t]
      simp only [hwhole, List.length_append, List.length_singleton, ← Nat.add_assoc] at hrest
      rw [Transcription.wordSpansFrom, if_neg he, hrest]

/-- The hits of an expression without boundaries in a transcription are its hits in the words,
at the places that they have in the transcription. -/
theorem find_words (hfree : root.isBoundaryFree = true) (t : Transcription) :
    find root t = t.wordSpans.flatMap (wordHits root t) := by
  have h := scan_words hfree t [] []
  rw [find_eq]
  exact h

end Phonex

end PhoneticSearch
