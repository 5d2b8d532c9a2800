import PhoneticSearch.Proofs.Text.Words
import PhoneticSearch.Proofs.Transcription.ReadBack

/-!
# How far a text is read, and what of it is kept

A text reads as elements up to its end, or up to a token that has no place there
(`stopsAt_of_placeAll`).  What is in front of that token is read whatever follows, so no
text that starts like this one has its fault earlier.

Where all of a text is read, its elements are written as the text was, but for the letters
of constituents and the white space (`Spaced.render_placeAll`): single spaces stand between
the words, and none at the ends.  The two together are `read_extent`.
-/

namespace PhoneticSearch.Transcription

variable {table : FeatureTable}

/-! ### Up to the first fault -/

/-- Whether a text, read behind some elements, has at `offset` the first token without a
place, for the reason `fault`. -/
def StopsAt (table : FeatureTable) (text : Text) (before : List Element) (offset : Nat)
    (fault : Fault) : Prop :=
  ∃ front c rest after annotated, text = front ++ c :: rest ∧ front.length = offset ∧
    ReadsAs table front before after annotated ∧
    place table after (tokenAt c rest) = .error fault

/-- A piece that has a place is not where a text stops. -/
theorem StopsAt.piece {w rest : Text} {k : Token} {before after : List Element} {offset : Nat}
    {fault : Fault} (h : Piece w k) (hplace : place table before k = .ok after)
    (hrest : StopsAt table rest after offset fault) :
    StopsAt table (w ++ rest) before (w.length + offset) fault := by
  obtain ⟨front, c, behind, last, annotated, rfl, rfl, hreads, hfault⟩ := hrest
  exact ⟨w ++ front, c, behind, last, _, (List.append_assoc ..).symm, List.length_append,
    (ReadsAs.piece h hplace).trans hreads, hfault⟩

/-- A text whose tokens do not all have a place stops at the first that has none. -/
theorem stopsAt_of_placeAll (text : Text) : ∀ {start : Nat} {before : List Element}
    {e : Nat × Fault}, placeAll table before (tokensFrom start 0 text) = .error e →
    ∃ offset, e.1 = start + offset ∧ StopsAt table text before offset e.2 := by
  induction text using pieces_induction with
  | nil => intro start before e h; cases h
  | @noToken c rest f h =>
    intro start before e he
    rw [tokensFrom_noToken h, placeAll, place] at he
    obtain rfl := Except.error.inj he
    refine ⟨0, rfl, [], c, rest, before, false, rfl, rfl, .nil before, ?_⟩
    rw [h.tokenAt, place]
  | @piece w k rest h ih =>
    intro start before e he
    rw [tokensFrom_piece h, placeAll] at he
    cases hplace : place table before k with
    | ok after =>
      rw [hplace] at he
      obtain ⟨offset, hoffset, hstops⟩ := ih he
      exact ⟨w.length + offset, by rw [hoffset, Nat.add_assoc], hstops.piece h hplace⟩
    | error f =>
      rw [hplace] at he
      obtain rfl := Except.error.inj he
      obtain ⟨c, w', rfl, hat, -⟩ := h.tokenAt
      -- The text stops at the piece itself.
      refine ⟨0, rfl, [], c, w' ++ rest, before, false, rfl, rfl, .nil before, ?_⟩
      rw [hat, hplace]

/-- A fault is that of a token. -/
theorem le_of_placeAll_error {text : Text} {start : Nat} {before : List Element}
    {e : Nat × Fault} (h : placeAll table before (tokensFrom start 0 text) = .error e) :
    start ≤ e.1 := by
  obtain ⟨offset, hoffset, -⟩ := stopsAt_of_placeAll text h
  exact hoffset ▸ Nat.le_add_right start offset

theorem stopsAt_of_read {text : Text} {e : ReadError} (h : read table text = .error e) :
    StopsAt table text [] e.offset e.fault := by
  obtain ⟨offset, hoffset, hstops⟩ := stopsAt_of_placeAll text (read_eq_error_iff.mp h).2
  rw [Nat.zero_add] at hoffset
  subst hoffset
  exact hstops

namespace StopsAt

variable {text : Text} {before : List Element} {offset : Nat} {fault : Fault}

theorem offset_lt (h : StopsAt table text before offset fault) : offset < text.length := by
  obtain ⟨front, c, rest, after, annotated, rfl, rfl, -, -⟩ := h
  rw [List.length_append, List.length_cons]
  omega

/-- In front of the fault a text reads as elements. -/
theorem reads_take (h : StopsAt table text before offset fault) :
    ∃ after annotated, ReadsAs table (text.take offset) before after annotated := by
  obtain ⟨front, c, rest, after, annotated, rfl, rfl, hreads, -⟩ := h
  exact ⟨after, annotated, by rwa [List.take_left]⟩

end StopsAt

/-- A text that starts with one that reads as elements has no fault in it. -/
theorem ReadsAs.length_le {front text : Text} {after : List Element} {annotated : Bool}
    (h : ReadsAs table front [] after annotated) (hfront : front <+: text) {e : ReadError}
    (he : Transcription.read table text = .error e) : front.length ≤ e.offset := by
  obtain ⟨rest, rfl⟩ := hfront
  have hfault := (read_eq_error_iff.mp he).2
  rw [tokens, h.placed, Nat.zero_add] at hfault
  exact le_of_placeAll_error hfault

/-! ### What is kept -/

/-- Whether the character at a position is the colon or the letter of a constituent. -/
def isConstituentAt (ks : List (Nat × Token)) (i : Nat) : Bool :=
  ks.any fun k => k.2.isConstituent && (i == k.1 || i == k.1 + 1)

/-- The characters of a text that starts at `offset`, without the colons and the letters of
constituents. -/
def withoutConstituentsFrom (offset : Nat) (text : Text) : Text :=
  ((text.zipIdx offset).filter fun c => !isConstituentAt (tokensFrom offset 0 text) c.2).map
    Prod.fst

/-- A text without the colons and the letters of constituents. -/
def withoutConstituents (text : Text) : Text := withoutConstituentsFrom 0 text

/-- A colon that is tied to a phone stays. -/
example : withoutConstituents "t:Oa\u0361:".toList = "ta\u0361:".toList := by decide

/-- What is kept of a piece: nothing of a constituent, all of any other. -/
def kept (k : Token) (w : Text) : Text := if k.isConstituent then [] else w

theorem isConstituentAt_cons (k : Nat × Token) (ks : List (Nat × Token)) (i : Nat) :
    isConstituentAt (k :: ks) i =
      (k.2.isConstituent && (i == k.1 || i == k.1 + 1) || isConstituentAt ks i) := rfl

/-- Characters in front of a text are no letters in it. -/
theorem isConstituentAt_of_lt {text : Text} {offset i : Nat} (h : i < offset) :
    isConstituentAt (tokensFrom offset 0 text) i = false := by
  rw [isConstituentAt, List.any_eq_false]
  intro k hk
  have hle := le_of_mem_tokensFrom text hk
  have hfirst : i ≠ k.1 := by omega
  have hsecond : i ≠ k.1 + 1 := by omega
  simp [hfirst, hsecond]

/-- A constituent is written with a colon and a letter. -/
theorem Piece.length_of_isConstituent {w : Text} {k : Token} (h : Piece w k)
    (hk : k.isConstituent = true) : w.length = 2 := by
  obtain ⟨c, w', rfl, -, -, hlength⟩ := h.tokenAt
  cases k with
  | constituent _ => exact hlength.symm
  | blank | stress _ | boundary | pause _ | tied _ _ | diacritic _ | glyph _ | faulty _ => cases hk

/-- The characters of the first piece are those of a constituent or none of them is. -/
theorem isConstituentAt_piece {w rest : Text} {k : Token} (h : Piece w k) {offset i : Nat}
    (hle : offset ≤ i) : isConstituentAt (tokensFrom offset 0 (w ++ rest)) i =
      if i < offset + w.length then k.isConstituent
      else isConstituentAt (tokensFrom (offset + w.length) 0 rest) i := by
  rw [tokensFrom_piece h, isConstituentAt_cons]
  split
  · next hlt =>
    rw [isConstituentAt_of_lt hlt, Bool.or_false]
    cases hk : k.isConstituent with
    | false => rfl
    | true =>
      have hlength := h.length_of_isConstituent hk
      have hi : i = offset ∨ i = offset + 1 := by omega
      rcases hi with rfl | rfl <;> simp
  · next hnlt =>
    cases hk : k.isConstituent with
    | false => rfl
    | true =>
      have hlength := h.length_of_isConstituent hk
      have hfirst : i ≠ offset := by omega
      have hsecond : i ≠ offset + 1 := by omega
      simp [hfirst, hsecond]

/-- The piece of a constituent goes, every other piece stays. -/
theorem withoutConstituentsFrom_piece {w : Text} {k : Token} (h : Piece w k) (offset : Nat)
    (rest : Text) : withoutConstituentsFrom offset (w ++ rest) =
      kept k w ++ withoutConstituentsFrom (offset + w.length) rest := by
  have hfront : (w.zipIdx offset).filter (fun c =>
      !isConstituentAt (tokensFrom offset 0 (w ++ rest)) c.2) =
        (w.zipIdx offset).filter fun _ => !k.isConstituent := by
    refine List.filter_congr fun c hc => ?_
    rw [isConstituentAt_piece h (List.le_snd_of_mem_zipIdx hc),
      if_pos (List.snd_lt_add_of_mem_zipIdx hc)]
  have hbehind : (rest.zipIdx (offset + w.length)).filter (fun c =>
      !isConstituentAt (tokensFrom offset 0 (w ++ rest)) c.2) =
        (rest.zipIdx (offset + w.length)).filter fun c =>
          !isConstituentAt (tokensFrom (offset + w.length) 0 rest) c.2 := by
    refine List.filter_congr fun c hc => ?_
    have hle : offset + w.length ≤ c.2 := List.le_snd_of_mem_zipIdx hc
    rw [isConstituentAt_piece h (Nat.le_trans (Nat.le_add_right ..) hle),
      if_neg (Nat.not_lt.mpr hle)]
  rw [withoutConstituentsFrom, List.zipIdx_append, List.filter_append, List.map_append, hfront,
    hbehind, ← withoutConstituentsFrom, kept]
  cases k.isConstituent with
  | true => rw [List.filter_eq_nil_iff.mpr (by simp), List.map_nil, if_pos rfl]
  | false =>
    rw [List.filter_eq_self.mpr (by simp), List.zipIdx_map_fst, if_neg Bool.false_ne_true]

/-- Where there is no constituent, nothing goes. -/
theorem withoutConstituents_eq_self {text : Text}
    (h : ∀ k ∈ tokens text, k.2.isConstituent = false) : withoutConstituents text = text := by
  have hnone : ∀ i, isConstituentAt (tokens text) i = false := by
    intro i
    rw [isConstituentAt, List.any_eq_false]
    intro k hk
    simp [h k hk]
  have hall : (text.zipIdx 0).filter (fun c => !isConstituentAt (tokensFrom 0 0 text) c.2) =
      text.zipIdx 0 :=
    List.filter_eq_self.mpr fun c _ => by
      rw [← tokens, hnone]
      rfl
  rw [withoutConstituents, withoutConstituentsFrom, hall, List.zipIdx_map_fst]

/-! ### What is written of the elements -/

/-- A token that is no white space is written behind the elements in front of it, but for a
constituent, and white space behind it is a word boundary. -/
theorem render_place {w : Text} {k : Token} {before after : List Element} (h : Piece w k)
    (hk : k ≠ .blank) (hplace : place table before k = .ok after) :
    TakesBoundary after ∧
      render after.reverse = render before.reverse ++ kept k w ∧
      (k.isConstituent = true → TakesBoundary before) := by
  have htakes : ∀ {e : Element} {before : List Element}, e ≠ .wordBoundary →
      TakesBoundary (e :: before) := by
    intro e before he
    exact ⟨List.cons_ne_nil e before, by simpa using he⟩
  cases h with
  | blank _ => exact absurd rfl hk
  | written h =>
    cases h with
    | blank => exact absurd rfl hk
    | stress s | boundary | pause l | glyph h =>
      cases hplace
      exact ⟨htakes nofun, render_reverse_cons _ before, nofun⟩
    | constituent h =>
      -- The phone in front of it stays as it is written.
      obtain ⟨p, before, rfl, rfl⟩ := exists_phone_of_place rfl hplace
      refine ⟨htakes nofun, ?_, fun _ => htakes nofun⟩
      rw [render_reverse_cons, render_reverse_cons]
      exact (List.append_nil _).symm
    | tied h | diacritic h =>
      obtain ⟨p, before, rfl, rfl⟩ := exists_phone_of_place rfl hplace
      refine ⟨htakes nofun, ?_, nofun⟩
      rw [render_reverse_cons, render_reverse_cons, List.append_assoc]
      rfl

theorem notBlank_of_mem_pause (l : Pause) : ∀ c ∈ l.text, isBlank c = false := by
  have hall : l.text.all (!isBlank ·) = true := by cases l <;> rfl
  simpa using hall

/-- What is kept of a token that is no white space has none in it. -/
theorem Piece.notBlank {w : Text} {k : Token} (h : Piece w k) (hk : k ≠ .blank) :
    ∀ c ∈ kept k w, isBlank c = false := by
  cases h with
  | blank _ => exact absurd rfl hk
  | written h =>
    cases h with
    | blank => exact absurd rfl hk
    | stress s => exact List.forall_mem_singleton.mpr (by cases s <;> rfl)
    | boundary => exact List.forall_mem_singleton.mpr rfl
    | pause l => exact notBlank_of_mem_pause l
    | constituent _ => exact nofun
    | tied h =>
      exact List.forall_mem_cons.mpr ⟨isBlank_of_isTieBar h.isTieBar,
        List.forall_mem_singleton.mpr h.notBlank⟩
    | diacritic h => exact List.forall_mem_singleton.mpr (isBlank_of_isDiacritic h)
    | glyph h => exact List.forall_mem_singleton.mpr h.notBlank

theorem Piece.eq_of_blank {w : Text} (h : Piece w .blank) :
    ∃ c, isBlank c = true ∧ w = [c] := by
  cases h with
  | @blank c h => exact ⟨c, h, rfl⟩
  | written h =>
    cases h with
    | blank => exact ⟨' ', rfl, rfl⟩

/-- Elements, last first, as they are written: words that have ended, with a space behind
each, and the word that has begun, if one has. -/
structure Spaced (done : List Element) (ended : List Text) (pending : Text) : Prop where
  render_eq : render done.reverse = ended.flatMap (· ++ [' ']) ++ pending.reverse
  hasBegun : TakesBoundary done ↔ pending ≠ []

namespace Spaced

variable {before after done : List Element} {ended : List Text} {pending w : Text} {k : Token}

theorem nil : Spaced [] [] [] := ⟨rfl, by simp [TakesBoundary]⟩

/-- A token that is no white space goes to the word that has begun. -/
theorem place (h : Spaced before ended pending) (hpiece : Piece w k) (hk : k ≠ .blank)
    (hplace : Transcription.place table before k = .ok after) :
    Spaced after ended ((kept k w).reverse ++ pending) := by
  obtain ⟨hafter, hrender, hbefore⟩ := render_place hpiece hk hplace
  refine ⟨?_, iff_of_true hafter ?_⟩
  · rw [hrender, h.render_eq, List.reverse_append, List.reverse_reverse, List.append_assoc]
  · rw [kept]
    cases hconstituent : k.isConstituent with
    | true =>
      -- The phone that the constituent belongs to has begun a word.
      have hpending := h.hasBegun.mp (hbefore hconstituent)
      simpa using hpending
    | false =>
      obtain ⟨c, w', rfl, -⟩ := hpiece.tokenAt
      simp

/-- White space ends the word that has begun, if one has. -/
theorem blank (h : Spaced before ended pending)
    (hplace : Transcription.place table before .blank = .ok after) :
    Spaced after (ended ++ if pending.isEmpty then [] else [pending.reverse]) [] := by
  by_cases htakes : TakesBoundary before
  · have hpending : pending.isEmpty = false := by simpa using h.hasBegun.mp htakes
    -- The boundary is the space behind the word that ends.
    obtain rfl : .wordBoundary :: before = after :=
      Except.ok.inj ((place_blank htakes).symm.trans hplace)
    refine ⟨?_, by simp [TakesBoundary]⟩
    rw [render_reverse_cons, h.render_eq, hpending]
    simp [Element.render]
  · obtain rfl : pending = [] := by simpa using (not_congr h.hasBegun).mp htakes
    obtain rfl : before = after :=
      Except.ok.inj ((place_blank_of_not htakes).symm.trans hplace)
    simpa using h

/-- Without the word boundary at the end, single spaces stand between the words only. -/
theorem render_dropBoundary (h : Spaced done ended pending) : render (dropBoundary done).reverse =
    Text.join [' '] (ended ++ if pending.isEmpty then [] else [pending.reverse]) := by
  by_cases htakes : TakesBoundary done
  · have hpending : pending.isEmpty = false := by simpa using h.hasBegun.mp htakes
    rw [dropBoundary_of_head? htakes.2, h.render_eq, hpending, if_neg Bool.false_ne_true,
      Text.join_concat]
  · obtain rfl : pending = [] := by simpa using (not_congr h.hasBegun).mp htakes
    have hrender := h.render_eq
    rw [List.isEmpty_nil, if_pos rfl, List.append_nil]
    rw [List.reverse_nil, List.append_nil] at hrender
    cases done with
    | nil =>
      cases ended with
      | nil => rfl
      | cons t ended => simp at hrender
    | cons e before =>
      cases e with
      | wordBoundary =>
        -- The boundary is the space behind the last word, which goes with it.
        have hended : ended ≠ [] := by
          rintro rfl
          simp [Element.render] at hrender
        rw [render_reverse_cons, Text.flatMap_append_eq_join [' '] hended] at hrender
        exact List.append_cancel_right hrender
      | phone _ | stress _ | syllableBoundary | pause _ => simp [TakesBoundary] at htakes

/-- What is placed of a text is written as its words, with single spaces between them. -/
theorem render_placeAll (text : Text) : ∀ (start : Nat) {offset : Nat}
    {before done : List Element} {ended : List Text} {pending : Text},
    Spaced before ended pending →
    placeAll table before (tokensFrom offset 0 text) = .ok done →
    render (dropBoundary done).reverse = Text.join [' '] (ended ++
      (Text.wordsFrom start pending (withoutConstituentsFrom offset text)).map Prod.snd) := by
  induction text using pieces_induction with
  | nil =>
    intro start offset before done ended pending h hplaced
    cases hplaced
    rw [h.render_dropBoundary, withoutConstituentsFrom, List.zipIdx_nil, List.filter_nil,
      List.map_nil, Text.wordsFrom]
    cases pending <;> rfl
  | noToken h =>
    intro start offset before done ended pending _ hplaced
    rw [tokensFrom_noToken h] at hplaced
    cases hplaced
  | @piece w k rest hpiece ih =>
    intro start offset before done ended pending h hplaced
    rw [tokensFrom_piece hpiece, placeAll] at hplaced
    rw [withoutConstituentsFrom_piece hpiece]
    split at hplaced
    · next after hplace =>
      by_cases hk : k = .blank
      · subst hk
        obtain ⟨c, hc, rfl⟩ := hpiece.eq_of_blank
        show _ = Text.join [' '] (ended ++ (Text.wordsFrom start pending
          (c :: withoutConstituentsFrom (offset + 1) rest)).map Prod.snd)
        rw [ih (start + Text.size pending + c.utf8Size) (h.blank hplace) hplaced, Text.wordsFrom,
          if_pos hc, List.map_append, List.append_assoc]
        cases pending <;> rfl
      · rw [Text.wordsFrom_append (hpiece.notBlank hk)]
        exact ih start (h.place hpiece hk hplace) hplaced
    · cases hplaced

end Spaced

/-! ### Reading -/

/-- A text that is read is written as its words, without the letters of constituents and with
single spaces between the words. -/
theorem render_read {text : Text} {t : Transcription} (h : read table text = .ok t) :
    t.render = Text.join [' '] ((Text.words (withoutConstituents text)).map Prod.snd) := by
  obtain ⟨done, hdone, ht⟩ := exists_placeAll_of_read h
  have hrender : t.render = render (dropBoundary done).reverse := by
    rw [ht]
    split
    · rfl
    · exact render_syllabify _
  rw [hrender, Spaced.nil.render_placeAll text 0 hdone]
  rfl

/-- **Errors point at the first fault, and nothing else of a text is lost.**  The offset of a
text that is not read is that of one of its characters; what is in front of it is read, and
no text that starts with it has its fault earlier.  A text that is read is written with the
same characters in the same order, but for white space and the letters of constituents, and
with nothing but single spaces between its words. -/
theorem read_extent (table : FeatureTable) (text : Text) :
    (∀ e, read table text = .error e →
      e.offset < text.length ∧ (∃ t, read table (text.take e.offset) = .ok t) ∧
      ∀ text' e', text.take e.offset <+: text' → read table text' = .error e' →
        e.offset ≤ e'.offset) ∧
    ∀ t, read table text = .ok t →
      t.render.filter (!isBlank ·) = (withoutConstituents text).filter (!isBlank ·) ∧
      t.render = Text.join [' '] ((Text.words (withoutConstituents text)).map Prod.snd) := by
  constructor
  · intro e he
    have hstops := stopsAt_of_read he
    obtain ⟨after, annotated, hreads⟩ := hstops.reads_take
    refine ⟨hstops.offset_lt, ⟨_, hreads.read_dropBoundary⟩, fun text' e' hfront he' => ?_⟩
    have hle := hreads.length_le hfront he'
    rwa [List.length_take_of_le (Nat.le_of_lt hstops.offset_lt)] at hle
  · intro t ht
    have hrender := render_read ht
    exact ⟨by rw [hrender, Text.filter_join_words], hrender⟩

/-- The pause that is none in one text, and further back in a text that starts with the same
two phones; and a text with white space at its ends and the letters of two constituents. -/
theorem read_extent_letters :
    (read .builtin "ka(.".toList = .error ⟨"ka(.".toList, 2, .malformedPause⟩ ∧
      2 < "ka(.".toList.length ∧ (∃ t, read .builtin "ka".toList = .ok t) ∧
      ∃ e, read .builtin "kaʰ(y".toList = .error e ∧ 2 ≤ e.offset) ∧
    ∃ t, read .builtin "\tˈt\u0361s:Oa:n  (.)\nna ".toList = .ok t ∧
      t.render.filter (!isBlank ·) = "ˈt\u0361sa(.)na".toList ∧
      t.render = "ˈt\u0361sa (.) na".toList := by
  have hka : read .builtin "ka(.".toList = .error ⟨"ka(.".toList, 2, .malformedPause⟩ := rfl
  obtain ⟨hlt, hfront, hleast⟩ := (read_extent .builtin "ka(.".toList).1 _ hka
  have hprefix : "ka(.".toList.take 2 <+: "kaʰ(y".toList := ⟨"ʰ(y".toList, rfl⟩
  have hkahy : read .builtin "kaʰ(y".toList = .error _ := rfl
  have hread : read .builtin "\tˈt\u0361s:Oa:n  (.)\nna ".toList = .ok _ := rfl
  obtain ⟨hkept, hspaced⟩ := (read_extent .builtin _).2 _ hread
  exact ⟨⟨hka, hlt, hfront, _, hkahy, hleast _ _ hprefix hkahy⟩, _, hread,
    hkept.trans (by decide +kernel), hspaced.trans (by decide +kernel)⟩

end PhoneticSearch.Transcription
