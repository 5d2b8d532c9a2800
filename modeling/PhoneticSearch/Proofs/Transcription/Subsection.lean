import PhoneticSearch.Proofs.Text.Part
import PhoneticSearch.Transcription.Basic

/-!
# Parts of a transcription

A part between two positions continues what is in front of it
(`take_append_subsection`), and a part of a part is a part of the whole
(`subsection_subsection`).  A part as it is written stands in the whole at its bytes
(`standsAt_byteSpan`), and the byte offsets of its elements are those in the whole, counted from
where the part starts (`byteOffset_add`).  So spans of elements may be cut first and written then,
or the other way round (`slices_commute`).
-/

namespace PhoneticSearch.Transcription

variable {t : Transcription} {s : Span}

theorem take_append_subsection (h : s.start ≤ s.stop) :
    t.take s.start ++ t.subsection s = t.take s.stop := by
  have hsplit := List.take_append_drop s.start (t.take s.stop)
  rwa [List.take_take, Nat.min_eq_left h] at hsplit

theorem length_subsection (t : Transcription) (s : Span) :
    (t.subsection s).length = min s.stop t.length - s.start := by
  rw [subsection, List.length_drop, List.length_take]

/-- The elements of a part are those at the positions of its span. -/
theorem mem_subsection {e : Element} :
    e ∈ t.subsection s ↔ ∃ i, s.contains i = true ∧ t[i]? = some e := by
  constructor
  · intro he
    obtain ⟨j, hj, rfl⟩ := List.mem_drop_iff_getElem.mp he
    rw [List.length_take] at hj
    refine ⟨s.start + j, Span.mem_iff.mpr (by omega), ?_⟩
    rw [List.getElem_take, List.getElem?_eq_getElem]
  · rintro ⟨i, hi, he⟩
    obtain ⟨hle, hlt⟩ := Span.mem_iff.mp hi
    obtain ⟨hlength, rfl⟩ := List.getElem?_eq_some_iff.mp he
    refine List.mem_drop_iff_getElem.mpr ⟨i - s.start, ?_, ?_⟩
    · rw [List.length_take]
      omega
    · simp only [List.getElem_take, Nat.add_sub_cancel' hle]

/-- The elements of a span of a part are those of the span moved to where the part
starts. -/
theorem subsection_subsection {inner : Span} (h : inner.stop ≤ (t.subsection s).length) :
    (t.subsection s).subsection inner = t.subsection (inner.shift s.start) := by
  rw [length_subsection] at h
  simp only [subsection, Span.shift]
  rw [List.take_drop, List.drop_drop, List.take_take, Nat.add_comm s.start inner.stop,
    Nat.add_comm s.start inner.start]
  rcases Nat.lt_or_ge s.start s.stop with hlt | hge
  · rw [Nat.min_eq_left (by omega)]
  · -- The part is empty, and so is every part of it.
    have hstop : inner.stop = 0 := by omega
    rw [hstop, Nat.zero_add, List.drop_eq_nil_of_le, List.drop_eq_nil_of_le]
    · rw [List.length_take]
      omega
    · rw [List.length_take]
      omega

/-- The part of a transcription between what is in front of it and what is behind it. -/
theorem subsection_middle (before part after : Transcription) :
    (before ++ part ++ after).subsection ⟨before.length, before.length + part.length⟩ = part := by
  rw [subsection, ← List.length_append, List.take_left, List.drop_left]

/-- A part as it is written stands in the written transcription at its bytes. -/
theorem standsAt_byteSpan (t : Transcription) (s : Span) :
    Text.StandsAt (t.subsection s).render t.render (t.byteSpan s) := by
  rcases Nat.le_total s.start s.stop with h | h
  · have hfront := congrArg render (take_append_subsection (t := t) h)
    rw [render_append] at hfront
    refine ⟨render (t.take s.start), render (t.drop s.stop), ?_, rfl, ?_⟩
    · rw [hfront, ← render_append, List.take_append_drop]
    · rw [← Text.size_append, hfront, byteSpan, Nat.max_eq_left h]
      rfl
  · have hnil : t.subsection s = [] := by
      refine List.eq_nil_of_length_eq_zero ?_
      rw [length_subsection]
      omega
    refine ⟨render (t.take s.start), render (t.drop s.start), ?_, rfl, ?_⟩
    · rw [hnil, render_nil, List.append_nil, ← render_append, List.take_append_drop]
    · rw [hnil, render_nil, byteSpan, Nat.max_eq_right h]
      rfl

theorem standsAt_subsection (t : Transcription) (s : Span) :
    Text.StandsAt (t.subsection s).render t.render
      ⟨t.byteOffset s.start, t.byteOffset s.start + Text.size (t.subsection s).render⟩ := by
  obtain ⟨before, after, hwhole, hstart, -⟩ := standsAt_byteSpan t s
  exact ⟨before, after, hwhole, hstart, congrArg (· + _) hstart⟩

/-- The elements that a part starts with are those that follow its start. -/
theorem take_subsection {k : Nat} (h : k ≤ s.length) :
    (t.subsection s).take k = (t.drop s.start).take k := by
  unfold Span.length at h
  rw [subsection, List.drop_take, List.take_take, Nat.min_eq_left h]

/-- An element of a part starts as far behind the start of the part as it does in the part. -/
theorem byteOffset_add {k : Nat} (h : k ≤ s.length) :
    t.byteOffset (s.start + k) = t.byteOffset s.start + (t.subsection s).byteOffset k := by
  unfold byteOffset
  rw [take_subsection h, List.take_add, render_append, Text.size_append]

/-- **Slices of a transcription as it is written.**  The bytes of a span are those of its elements,
and both of its ends lie between two characters, also where the span is out of order or goes past
the end.  A position in a part has the byte offset that it has in the whole, counted from where the
part starts. -/
theorem slices_commute (t : Transcription) :
    (∀ s : Span,
      ((Text.bytes t.render).take (t.byteSpan s).stop).drop (t.byteSpan s).start =
        Text.bytes (t.subsection s).render ∧
      t.render.IsBoundary (t.byteSpan s).start ∧ t.render.IsBoundary (t.byteSpan s).stop) ∧
    ∀ (s : Span) (k : Nat), k ≤ s.length →
      t.byteOffset (s.start + k) = t.byteOffset s.start + (t.subsection s).byteOffset k := by
  refine ⟨fun s => ?_, fun s k hk => byteOffset_add hk⟩
  have hstands := t.standsAt_byteSpan s
  exact ⟨hstands.bytes_eq, hstands.isBoundary_start, hstands.isBoundary_stop⟩

/-- The space behind a stress mark of two bytes and a pause of four is at byte 6, and in the part
that the pause starts it is at byte 4. -/
theorem slices_commute_pause :
    let t : Transcription := [.stress .primary, .pause .medium, .wordBoundary]
    1 ≤ Span.length ⟨1, 3⟩ ∧
      t.byteOffset (1 + 1) = t.byteOffset 1 + (t.subsection ⟨1, 3⟩).byteOffset 1 ∧
      t.byteOffset 1 = 2 ∧ (t.subsection ⟨1, 3⟩).byteOffset 1 = 4 :=
  ⟨by decide, (slices_commute _).2 ⟨1, 3⟩ 1 (by decide), by decide, by decide⟩

end PhoneticSearch.Transcription
