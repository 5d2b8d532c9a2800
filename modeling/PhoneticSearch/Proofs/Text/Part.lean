import PhoneticSearch.Span
import PhoneticSearch.Text.Words

/-!
# Where a text stands in another

`StandsAt part whole s` says that `part` is what `whole` has at the bytes of the span
`s`, between what is in front of it and what is behind it.  That is all there is to say
of an address: both ends lie between two characters, in order and inside `whole`, and
the bytes between them are those of `part` (`StandsAt.bytes_eq`).

A part of a part is a part at the sum of the offsets (`StandsAt.trans`), and the words
of a text stand where they are said to (`standsAt_of_mem_words`).
-/

namespace PhoneticSearch.Text

/-- The bytes of a text in its UTF-8 form. -/
def bytes (t : Text) : List UInt8 := t.flatMap String.utf8EncodeChar

@[simp] theorem bytes_append (s t : Text) : bytes (s ++ t) = bytes s ++ bytes t :=
  List.flatMap_append

@[simp] theorem length_bytes (t : Text) : (bytes t).length = size t := by
  induction t with
  | nil => rfl
  | cons c t ih =>
    rw [bytes, List.flatMap_cons, List.length_append, String.length_utf8EncodeChar, size_cons]
    exact congrArg (c.utf8Size + ·) ih

theorem size_reverse (t : Text) : size t.reverse = size t := by
  induction t with
  | nil => rfl
  | cons c t ih => rw [List.reverse_cons, size_append, ih, size_cons, size_cons, size_nil,
      Nat.add_zero, Nat.add_comm]

theorem size_eq_zero {t : Text} : size t = 0 ↔ t = [] := by
  cases t with
  | nil => simp
  | cons c t => simpa using fun h => absurd h (Nat.ne_of_gt c.utf8Size_pos)

/-- Of two ways to cut a text, one goes on where the other one cuts. -/
theorem append_eq_append_of_size_le {before rest before' rest' : Text}
    (h : before ++ rest = before' ++ rest') (hle : size before ≤ size before') :
    ∃ between, before' = before ++ between ∧ rest = between ++ rest' := by
  rcases List.append_eq_append_iff.mp h with hlater | ⟨between, hbefore, hrest⟩
  · exact hlater
  · rw [hbefore, size_append] at hle
    obtain rfl : between = [] := size_eq_zero.mp (by omega)
    exact ⟨[], by simpa using hbefore.symm, by simpa using hrest.symm⟩

/-- Whether a byte offset lies between two characters of a text, or at one of its
ends. -/
def IsBoundary (t : Text) (offset : Nat) : Prop :=
  ∃ before after, t = before ++ after ∧ offset = size before

/-- Whether a text stands in another at the bytes of a span. -/
def StandsAt (part whole : Text) (s : Span) : Prop :=
  ∃ before after, whole = before ++ part ++ after ∧ s.start = size before ∧
    s.stop = size before + size part

namespace StandsAt

variable {part middle whole : Text} {s s' : Span}

theorem mk (before part after : Text) :
    StandsAt part (before ++ part ++ after) ⟨size before, size before + size part⟩ :=
  ⟨before, after, rfl, rfl, rfl⟩

theorem refl (t : Text) : StandsAt t t ⟨0, size t⟩ := ⟨[], [], by simp, rfl, by simp⟩

/-- The empty text stands at the start of every text. -/
theorem nil (t : Text) : StandsAt [] t ⟨0, 0⟩ := ⟨[], t, rfl, rfl, rfl⟩

theorem start_le_stop (h : StandsAt part whole s) : s.start ≤ s.stop := by
  obtain ⟨before, after, -, hstart, hstop⟩ := h
  omega

theorem stop_le_size (h : StandsAt part whole s) : s.stop ≤ size whole := by
  obtain ⟨before, after, rfl, -, hstop⟩ := h
  rw [size_append, size_append]
  omega

theorem isBoundary_start (h : StandsAt part whole s) : IsBoundary whole s.start := by
  obtain ⟨before, after, rfl, hstart, -⟩ := h
  exact ⟨before, part ++ after, List.append_assoc .., hstart⟩

theorem isBoundary_stop (h : StandsAt part whole s) : IsBoundary whole s.stop := by
  obtain ⟨before, after, rfl, -, hstop⟩ := h
  exact ⟨before ++ part, after, rfl, by rw [size_append, hstop]⟩

/-- The bytes of a span are those of the text that stands there. -/
theorem bytes_eq (h : StandsAt part whole s) :
    ((bytes whole).take s.stop).drop s.start = bytes part := by
  obtain ⟨before, after, rfl, hstart, hstop⟩ := h
  have hfront : ((bytes (before ++ part ++ after)).take s.stop) = bytes (before ++ part) := by
    rw [bytes_append]
    exact List.take_left' (by rw [length_bytes, size_append, hstop])
  rw [hfront, bytes_append]
  exact List.drop_left' (by rw [length_bytes, hstart])

/-- A part of a part stands at the sum of their offsets. -/
theorem trans (h : StandsAt part middle s) (h' : StandsAt middle whole s') :
    StandsAt part whole (s.shift s'.start) := by
  obtain ⟨before, after, rfl, hstart, hstop⟩ := h
  obtain ⟨before', after', rfl, hstart', -⟩ := h'
  refine ⟨before' ++ before, after ++ after', by simp only [List.append_assoc], ?_, ?_⟩
  · simp only [Span.shift, size_append]
    omega
  · simp only [Span.shift, size_append]
    omega

/-- What is between two parts stands there. -/
theorem between {part' : Text} (h : part.StandsAt whole s) (h' : part'.StandsAt whole s')
    (hle : s.stop ≤ s'.start) : ∃ gap : Text, gap.StandsAt whole ⟨s.stop, s'.start⟩ := by
  obtain ⟨before, after, rfl, -, hstop⟩ := h
  obtain ⟨before', after', heq, hstart', -⟩ := h'
  rw [List.append_assoc before'] at heq
  rw [hstop, hstart', ← size_append] at hle
  obtain ⟨gap, rfl, hrest⟩ := append_eq_append_of_size_le heq hle
  refine ⟨gap, before ++ part, part' ++ after', ?_, ?_, ?_⟩
  · rw [hrest, List.append_assoc _ gap]
  · rw [hstop, size_append]
  · rw [hstart', size_append]

/-- One text at most stands at some bytes. -/
theorem unique {part' : Text} (h : part.StandsAt whole s) (h' : part'.StandsAt whole s) :
    part = part' := by
  obtain ⟨before, after, rfl, hstart, hstop⟩ := h
  obtain ⟨before', after', heq, hstart', hstop'⟩ := h'
  rw [List.append_assoc, List.append_assoc] at heq
  obtain ⟨between, rfl, hrest⟩ := append_eq_append_of_size_le heq (by omega)
  rw [size_append] at hstart' hstop'
  obtain rfl : between = [] := size_eq_zero.mp (by omega)
  rw [size_nil] at hstop'
  rw [List.nil_append] at hrest
  obtain ⟨between, rfl, -⟩ := append_eq_append_of_size_le hrest (by omega)
  rw [size_append] at hstop'
  obtain rfl : between = [] := size_eq_zero.mp (by omega)
  rw [List.append_nil]

end StandsAt

/-- A word that ends stands behind what is in front of it. -/
theorem standsAt_of_mem_ended {before pending rest word : Text} {start : Nat}
    (h : (start, word) ∈ (if pending.isEmpty then [] else [(size before, pending.reverse)])) :
    StandsAt word (before ++ pending.reverse ++ rest) ⟨start, start + size word⟩ := by
  split at h
  · cases h
  · obtain ⟨rfl, rfl⟩ := Prod.mk.inj (List.mem_singleton.mp h)
    exact StandsAt.mk before pending.reverse rest

/-- The words that are found behind `before`, when a word has begun with `pending`. -/
theorem standsAt_of_mem_wordsFrom : ∀ (before pending rest : Text) {start : Nat} {word : Text},
    (start, word) ∈ wordsFrom (size before) pending rest →
      StandsAt word (before ++ pending.reverse ++ rest) ⟨start, start + size word⟩ := by
  intro before pending rest
  induction rest generalizing before pending with
  | nil => exact standsAt_of_mem_ended
  | cons c rest ih =>
    intro start word h
    rw [wordsFrom] at h
    by_cases hc : isBlank c = true
    · rw [if_pos hc] at h
      rcases List.mem_append.mp h with h | h
      · exact standsAt_of_mem_ended h
      · have hsize : size before + size pending + c.utf8Size =
            size (before ++ pending.reverse ++ [c]) := by
          simp only [size_append, size_reverse, size_cons, size_nil, Nat.add_zero]
        rw [hsize] at h
        simpa using ih _ [] h
    · rw [if_neg hc] at h
      simpa using ih before (c :: pending) h

/-- A word of a text stands at its offset. -/
theorem standsAt_of_mem_words {t word : Text} {start : Nat} (h : (start, word) ∈ words t) :
    StandsAt word t ⟨start, start + size word⟩ :=
  standsAt_of_mem_wordsFrom [] [] t h

end PhoneticSearch.Text
