import PhoneticSearch.Corpus.Reader
import PhoneticSearch.Proofs.Alignment.Ordinals

/-!
# Groups that are put together

A written group that lists no numbers is aligned like one that lists equal numbers for both
sides; so all that has to be known of a group that was put together is how its alignment comes
from a list of numbers (`build_eq_ok`).  The group is put together exactly when both
transcriptions are read and the numbers align their phones, and its alignment is then the
partial bijection that was listed (`build_alignment`).
-/

namespace PhoneticSearch.Corpus.WrittenGroup

variable {table : FeatureTable} {w : WrittenGroup} {g : Group}

/-- The numbers by which the phones of a group are aligned: those that it lists, or else the
same ones for both sides. -/
def alignedNumbers (w : WrittenGroup) (target actual : Transcription) :
    List (Option Nat × Option Nat) :=
  w.ordinals.getD (Alignment.numbered target.phones.length actual.phones.length)

/-- The groups that are put together. -/
theorem build_eq_ok : w.build table = .ok g ↔ ∃ target actual a,
    Transcription.read table w.target = .ok target ∧
      Transcription.read table w.actual = .ok actual ∧
      Alignment.ofOrdinals target actual (w.alignedNumbers target actual) = .ok a ∧
      g = ⟨w.orthography, target, actual, a, w.tiers⟩ := by
  constructor
  · intro h
    obtain ⟨target, htarget, h⟩ := bind_eq_ok.mp h
    obtain ⟨actual, hactual, h⟩ := bind_eq_ok.mp h
    have halignment : ∃ a,
        Alignment.ofOrdinals target actual (w.alignedNumbers target actual) = .ok a ∧
          g = ⟨w.orthography, target, actual, a, w.tiers⟩ := by
      rw [alignedNumbers]
      cases hordinals : w.ordinals with
      | none =>
        simp only [hordinals] at h
        cases h
        exact ⟨_, Alignment.ofOrdinals_numbered target actual, rfl⟩
      | some ordinals =>
        simp only [hordinals] at h
        obtain ⟨a, ha, h⟩ := bind_eq_ok.mp h
        cases h
        exact ⟨a, mapError_eq_ok.mp ha, rfl⟩
    obtain ⟨a, ha, hg⟩ := halignment
    exact ⟨target, actual, a, mapError_eq_ok.mp htarget, mapError_eq_ok.mp hactual, ha, hg⟩
  · rintro ⟨target, actual, a, htarget, hactual, ha, rfl⟩
    refine bind_eq_ok.mpr ⟨target, mapError_eq_ok.mpr htarget, ?_⟩
    refine bind_eq_ok.mpr ⟨actual, mapError_eq_ok.mpr hactual, ?_⟩
    rw [alignedNumbers] at ha
    cases hordinals : w.ordinals with
    | none =>
      rw [hordinals, Option.getD_none, Alignment.ofOrdinals_numbered] at ha
      cases ha
      rfl
    | some ordinals =>
      rw [hordinals] at ha
      exact bind_eq_ok.mpr ⟨a, mapError_eq_ok.mpr ha, rfl⟩

theorem transcription_mk (orthography : Text) (target actual : Transcription) (a : Alignment)
    (tiers : UserTiers) : Group.transcription ⟨orthography, target, actual, a, tiers⟩ =
      Side.choose target actual := by
  funext side
  cases side <;> rfl

/-- The alignment of a group that was put together matches its phones. -/
theorem matches_of_build (h : w.build table = .ok g) : g.alignment.Matches g.transcription := by
  obtain ⟨target, actual, a, -, -, ha, rfl⟩ := build_eq_ok.mp h
  rw [transcription_mk]
  exact Alignment.ofOrdinals_matches ha

/-- Listed numbers align the phones if they are those of phones, no phone is listed twice and
no pair is empty; the numbers of the order always do. -/
theorem alignedNumbers_admits {target actual : Transcription} :
    Alignment.Admits (Side.choose target actual) (w.alignedNumbers target actual) ↔
      ∀ ordinals ∈ w.ordinals, Alignment.Admits (Side.choose target actual) ordinals := by
  rw [alignedNumbers]
  cases w.ordinals with
  | none =>
    refine ⟨fun _ ordinals hordinals => ?_, fun _ => Alignment.numbered_admits _⟩
    cases hordinals
  | some ordinals => simp

/-- A group is put together if and only if both transcriptions are read and the numbers it
lists, if any, align their phones.  Its alignment then matches phones with phones, each with
the partner of which it is the partner; phones are partners if and only if their numbers are
listed together, and a group without numbers is the one with equal numbers. -/
theorem build_alignment (table : FeatureTable) (w : WrittenGroup) :
    ((∃ g, w.build table = .ok g) ↔ ∃ target actual,
      Transcription.read table w.target = .ok target ∧
        Transcription.read table w.actual = .ok actual ∧
        ∀ ordinals ∈ w.ordinals, Alignment.Admits (Side.choose target actual) ordinals) ∧
    ∀ g, w.build table = .ok g →
      (∀ side, ∀ i ∈ g.alignment.positions side,
        ∃ p, (g.transcription side).phoneAt? i = some p) ∧
      (∀ t a, g.alignment.partner? .target t = some a ↔ g.alignment.partner? .actual a = some t) ∧
      (∀ ordinals ∈ w.ordinals, ∀ k j t a, g.target.phonePositions[k]? = some t →
        g.actual.phonePositions[j]? = some a →
          (g.alignment.partner? .target t = some a ↔ (some k, some j) ∈ ordinals)) ∧
      (w.ordinals = none →
        { w with ordinals := some (Alignment.numbered g.target.phones.length
          g.actual.phones.length) }.build table = .ok g) := by
  refine ⟨⟨?_, ?_⟩, fun g h => ?_⟩
  · rintro ⟨g, h⟩
    obtain ⟨target, actual, a, htarget, hactual, ha, -⟩ := build_eq_ok.mp h
    have hadmits := (Alignment.ofOrdinals_eq_ok (t := Side.choose target actual)).mp ha
    exact ⟨target, actual, htarget, hactual, alignedNumbers_admits.mp hadmits.1⟩
  · rintro ⟨target, actual, htarget, hactual, hadmits⟩
    have ha := (Alignment.ofOrdinals_eq_ok (t := Side.choose target actual)).mpr
      ⟨alignedNumbers_admits.mpr hadmits, rfl⟩
    exact ⟨_, build_eq_ok.mpr ⟨target, actual, _, htarget, hactual, ha, rfl⟩⟩
  · have hmatches := matches_of_build h
    refine ⟨fun side i hi => ?_, fun t a => hmatches.partner?_comm, ?_, fun hnone => ?_⟩
    · exact Transcription.mem_phonePositions.mp (hmatches.phones side i hi)
    · intro ordinals hordinals k j t a ht hj
      obtain ⟨target, actual, alignment, -, -, ha, rfl⟩ := build_eq_ok.mp h
      rw [alignedNumbers, hordinals] at ha
      exact Alignment.partner?_ofOrdinals (t := Side.choose target actual) ha ht hj
    · obtain ⟨target, actual, alignment, htarget, hactual, ha, rfl⟩ := build_eq_ok.mp h
      rw [alignedNumbers, hnone] at ha
      exact build_eq_ok.mpr ⟨target, actual, alignment, htarget, hactual, ha, rfl⟩

/-- A group with two consonants that changed places. -/
def asksWritten : WrittenGroup where
  orthography := "asks".toList
  target := "ˈæsks".toList
  actual := "æks".toList
  ordinals := some [(some 0, some 0), (some 2, some 1), (some 1, some 2), (some 3, none)]
  tiers := []

/-- The second and third phones are behind the stress on one side only; a group that lists
the last phone twice is refused. -/
theorem build_alignment_asks : ∃ g, asksWritten.build .builtin = .ok g ∧
    g.alignment.partner? .target 3 = some 1 ∧ g.alignment.partner? .actual 1 = some 3 ∧
    g.alignment.partner? .target 4 = none ∧
    ¬ ∃ g, { asksWritten with ordinals := some [(some 2, some 2), (none, some 2)] }.build .builtin =
      .ok g := by
  have hbuild : asksWritten.build .builtin = .ok _ := rfl
  obtain ⟨-, hbuilt⟩ := build_alignment .builtin asksWritten
  obtain ⟨-, hcomm, hlisted, -⟩ := hbuilt _ hbuild
  have hpartner := (hlisted _ rfl 2 1 3 1 (by decide +kernel) (by decide +kernel)).mpr (by decide)
  refine ⟨_, hbuild, hpartner, (hcomm 3 1).mp hpartner, by decide +kernel, ?_⟩
  rw [(build_alignment .builtin _).1]
  rintro ⟨target, actual, -, -, hadmits⟩
  exact absurd ((hadmits _ rfl).nodup .actual) (by decide)

end PhoneticSearch.Corpus.WrittenGroup
