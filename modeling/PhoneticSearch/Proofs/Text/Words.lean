import PhoneticSearch.Proofs.Text.Part

/-!
# The characters of words

The words of a text hold its characters but for the white space (`flatten_wordsFrom`), and
so does the text that is made of them with single spaces (`filter_join_words`).

A text is a word, or a word, white space and the text behind it; the word in front may be empty
(`Text.word_induction`).  Its words follow this reading: the word in front, if it has a character,
and those of the text behind the white space, moved to where that starts (`words_break`).
-/

namespace PhoneticSearch

/-- A property of lists that those without certain elements have, and that goes over from what is
behind such an element to the whole. -/
theorem split_induction {α : Type} (breaks : α → Bool) {P : List α → Prop}
    (last : ∀ part, (∀ e ∈ part, breaks e = false) → P part)
    (step : ∀ part e rest, (∀ e ∈ part, breaks e = false) → breaks e = true → P rest →
      P (part ++ e :: rest)) : ∀ t, P t := by
  -- Where `part` is what has been seen of the first part.
  have seen : ∀ t part, (∀ e ∈ part, breaks e = false) → P (part ++ t) := by
    intro t
    induction t with
    | nil =>
      intro part hpart
      rw [List.append_nil]
      exact last part hpart
    | cons e t ih =>
      intro part hpart
      by_cases he : breaks e = true
      · exact step part e t hpart he (ih [] (List.forall_mem_nil _))
      · have hmore : ∀ x ∈ part ++ [e], breaks x = false :=
          List.forall_mem_append.mpr
            ⟨hpart, List.forall_mem_singleton.mpr (Bool.eq_false_iff.mpr he)⟩
        have hrest := ih (part ++ [e]) hmore
        rwa [List.append_assoc, List.singleton_append] at hrest
  exact fun t => seen t [] (List.forall_mem_nil _)

namespace Text

/-- The words of a text, one behind the other, are the text without its white space. -/
theorem flatten_wordsFrom (t : Text) : ∀ (start : Nat) (pending : Text),
    ((wordsFrom start pending t).map Prod.snd).flatten =
      pending.reverse ++ t.filter (!isBlank ·) := by
  induction t with
  | nil =>
    intro start pending
    cases pending with
    | nil => rfl
    | cons c pending => simp [wordsFrom]
  | cons c t ih =>
    intro start pending
    rw [wordsFrom]
    by_cases hc : isBlank c = true
    · rw [if_pos hc, List.map_append, List.flatten_append, ih, List.filter_cons_of_neg (by simp [hc])]
      cases pending with
      | nil => rfl
      | cons d pending => simp
    · rw [if_neg hc, ih, List.filter_cons_of_pos (by simp [hc]), List.reverse_cons,
        List.append_assoc, List.singleton_append]

/-- Characters that are no white space belong to the word that has begun. -/
theorem wordsFrom_append {w : Text} (h : ∀ c ∈ w, isBlank c = false) (rest : Text) (start : Nat) :
    ∀ pending, wordsFrom start pending (w ++ rest) =
      wordsFrom start (w.reverse ++ pending) rest := by
  induction w with
  | nil => intro pending; rfl
  | cons c w ih =>
    intro pending
    obtain ⟨hc, hw⟩ := List.forall_mem_cons.mp h
    rw [List.cons_append, wordsFrom, if_neg (by simp [hc]), ih hw, List.reverse_cons,
      List.append_assoc, List.singleton_append]

/-- A text without words is white space. -/
theorem blanks_of_wordsFrom_nil {t : Text} : ∀ {start : Nat}, wordsFrom start [] t = [] →
    ∀ c ∈ t, isBlank c = true := by
  induction t with
  | nil => exact fun _ _ hc => absurd hc List.not_mem_nil
  | cons c t ih =>
    intro start h
    by_cases hc : isBlank c = true
    · rw [wordsFrom, if_pos hc] at h
      exact List.forall_mem_cons.mpr ⟨hc, ih h⟩
    · -- A word that has begun is a word of the text.
      have hflatten := flatten_wordsFrom (c :: t) start []
      rw [h, List.filter_cons_of_pos (by simp [hc])] at hflatten
      cases hflatten

/-- A text with one word is that word with white space around it; in front of a word that has
begun there is none. -/
theorem padded_of_wordsFrom {t w : Text} : ∀ {start : Nat} {pending : Text},
    (wordsFrom start pending t).map Prod.snd = [w] → ∃ lead v trail,
      (∀ c ∈ lead, isBlank c = true) ∧ (∀ c ∈ trail, isBlank c = true) ∧
      t = lead ++ v ++ trail ∧ w = pending.reverse ++ v ∧ (pending ≠ [] → lead = []) := by
  induction t with
  | nil =>
    intro start pending h
    cases pending with
    | nil => cases h
    | cons c pending =>
      obtain rfl := List.singleton_inj.mp h
      exact ⟨[], [], [], nofun, nofun, rfl, (List.append_nil _).symm, fun _ => rfl⟩
  | cons c t ih =>
    intro start pending h
    rw [wordsFrom] at h
    by_cases hc : isBlank c = true
    · rw [if_pos hc] at h
      cases pending with
      | nil =>
        obtain ⟨lead, v, trail, hlead, htrail, rfl, hw, -⟩ := ih h
        exact ⟨c :: lead, v, trail, List.forall_mem_cons.mpr ⟨hc, hlead⟩, htrail, rfl, hw,
          fun hne => absurd rfl hne⟩
      | cons d pending =>
        obtain ⟨rfl, hnil⟩ := List.cons.inj h
        have htrail := blanks_of_wordsFrom_nil (List.map_eq_nil_iff.mp hnil)
        exact ⟨[], [], c :: t, nofun, List.forall_mem_cons.mpr ⟨hc, htrail⟩, rfl,
          (List.append_nil _).symm, fun _ => rfl⟩
    · rw [if_neg hc] at h
      obtain ⟨lead, v, trail, -, htrail, rfl, rfl, hlead⟩ := ih h
      obtain rfl := hlead (List.cons_ne_nil c pending)
      refine ⟨[], c :: v, trail, nofun, htrail, rfl, ?_, fun _ => rfl⟩
      rw [List.reverse_cons, List.append_assoc, List.singleton_append]

/-! ### Words behind white space -/

/-- Whether no character of a text is white space. -/
def Unbroken (w : Text) : Prop := ∀ c ∈ w, isBlank c = false

/-- A property of texts that a word has, and that goes over from what is behind white space to the
whole. -/
theorem word_induction {P : Text → Prop} (last : ∀ w, Unbroken w → P w)
    (step : ∀ w c rest, Unbroken w → isBlank c = true → P rest → P (w ++ c :: rest)) : ∀ t, P t :=
  split_induction isBlank last step

/-- The words of a text of one word; no characters are no word. -/
def wholeWord (w : Text) : List (Nat × Text) := if w.isEmpty then [] else [(0, w)]

/-- A word moved to the right. -/
def moveWord (distance : Nat) (word : Nat × Text) : Nat × Text := (word.1 + distance, word.2)

/-- Words are moved along with the text. -/
theorem wordsFrom_move (distance : Nat) (t : Text) : ∀ start pending,
    wordsFrom (start + distance) pending t =
      (wordsFrom start pending t).map (moveWord distance) := by
  have hbegun : ∀ (start : Nat) (pending : Text),
      (if pending.isEmpty then [] else [(start + distance, pending.reverse)]) =
        (if pending.isEmpty then [] else [(start, pending.reverse)]).map (moveWord distance) := by
    intro start pending
    split <;> rfl
  induction t with
  | nil => exact hbegun
  | cons c t ih =>
    intro start pending
    have hnext := ih (start + size pending + c.utf8Size) []
    rw [wordsFrom, wordsFrom]
    split
    · rw [List.map_append, hbegun, ← hnext]
      congr 2
      omega
    · exact ih start (c :: pending)

theorem words_unbroken {w : Text} (h : Unbroken w) : words w = wholeWord w := by
  have hwords := wordsFrom_append h [] 0 []
  rw [List.append_nil, List.append_nil] at hwords
  rw [words, hwords, wordsFrom, List.isEmpty_reverse, List.reverse_reverse, wholeWord]

/-- The words of a text that starts with a word and white space. -/
theorem words_break {w : Text} (h : Unbroken w) {c : Char} (hc : isBlank c = true) (rest : Text) :
    words (w ++ c :: rest) = wholeWord w ++ (words rest).map (moveWord (size w + c.utf8Size)) := by
  have hrest := wordsFrom_move (size w + c.utf8Size) rest 0 []
  rw [words, wordsFrom_append h, List.append_nil, wordsFrom, if_pos hc, List.isEmpty_reverse,
    List.reverse_reverse, size_reverse, Nat.add_assoc, hrest]
  rfl

/-! ### Joined texts -/

theorem join_cons_cons (separator t t' : Text) (ts : List Text) :
    join separator (t :: t' :: ts) = t ++ (separator ++ join separator (t' :: ts)) :=
  List.append_assoc ..

/-- Words that are joined to a text without white space are one word at most. -/
theorem eq_singleton_of_join {ts : List Text} {w : Text} (h : join [' '] ts = w)
    (hw : ∀ c ∈ w, isBlank c = false) (hne : w ≠ []) : ts = [w] := by
  match ts, h with
  | [], h => exact absurd h.symm hne
  | [t], h => exact congrArg (fun t => [t]) h
  | t :: t' :: ts, h =>
    rw [join_cons_cons] at h
    have hspace : ' ' ∈ w := h ▸ List.mem_append_right t (by simp)
    exact absurd (hw ' ' hspace) (by decide)

theorem filter_join_space : ∀ ts : List Text,
    (join [' '] ts).filter (!isBlank ·) = ts.flatten.filter (!isBlank ·)
  | [] => rfl
  | [t] => by rw [join, List.flatten_singleton]
  | t :: t' :: ts => by
    have hspace : [' '].filter (!isBlank ·) = [] := rfl
    rw [join_cons_cons, List.flatten_cons, List.filter_append, List.filter_append,
      List.filter_append, filter_join_space (t' :: ts), hspace, List.nil_append]

/-- Single spaces between the words of a text add no other character, and take none away. -/
theorem filter_join_words (t : Text) :
    (join [' '] ((words t).map Prod.snd)).filter (!isBlank ·) = t.filter (!isBlank ·) := by
  rw [filter_join_space, words, flatten_wordsFrom, List.reverse_nil, List.nil_append,
    List.filter_filter]
  simp only [Bool.and_self]

theorem join_concat (separator t : Text) : ∀ ts : List Text,
    join separator (ts ++ [t]) = ts.flatMap (· ++ separator) ++ t
  | [] => rfl
  | [t'] => by
    rw [List.singleton_append, join_cons_cons, join, List.flatMap_singleton, List.append_assoc]
  | t' :: t'' :: ts => by
    rw [List.flatMap_cons, List.cons_append, List.cons_append, join_cons_cons, ← List.cons_append,
      join_concat separator t (t'' :: ts), List.append_assoc, List.append_assoc]

/-- With a separator behind each item, the last one is too many. -/
theorem flatMap_append_eq_join (separator : Text) {ts : List Text} (h : ts ≠ []) :
    ts.flatMap (· ++ separator) = join separator ts ++ separator := by
  obtain ⟨front, last, rfl⟩ := (List.eq_nil_or_concat ts).resolve_left h
  rw [List.concat_eq_append, join_concat, List.flatMap_append, List.flatMap_singleton,
    List.append_assoc]

end Text

end PhoneticSearch
