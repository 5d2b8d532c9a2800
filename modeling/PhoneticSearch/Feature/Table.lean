import PhoneticSearch.Feature.Set
import PhoneticSearch.Json.Decode

/-!
# Feature tables

A feature table gives the features of glyphs.  `FeatureTable.builtin` covers the
common consonants, glides and vowels; `FeatureTable.read` layers the entries of a
JSON document over it.
-/

namespace PhoneticSearch

open Feature

/-- The features of some glyphs, each glyph once. -/
structure FeatureTable where
  /-- The glyphs with their features. -/
  entries : List (Char × FeatureSet)

namespace FeatureTable

/-- The features of a glyph, if the table has it. -/
def find? (table : FeatureTable) (glyph : Char) : Option FeatureSet := table.entries.lookup glyph

/-- The features of a glyph; none for a glyph that the table does not have. -/
def features (table : FeatureTable) (glyph : Char) : FeatureSet := (table.find? glyph).getD .empty

/-- A table with the features of one glyph set. -/
def insert (table : FeatureTable) (glyph : Char) (features : FeatureSet) : FeatureTable :=
  ⟨table.entries.filter (·.1 != glyph) ++ [(glyph, features)]⟩

/-- The number of glyphs of a table. -/
def size (table : FeatureTable) : Nat := table.entries.length

/-! ### The builtin table -/

/-- The features of an obstruent. -/
def obstruentOf (voicing manner : Feature) (place : List Feature) : FeatureSet :=
  .ofList ([consonant, obstruent, manner, voicing] ++ place)

/-- The features of a sonorant consonant. -/
def sonorantOf (manner place : List Feature) : FeatureSet :=
  .ofList ([consonant, sonorant, voiced] ++ place ++ manner)

/-- The features of a vowel. -/
def vowelOf (height backness : Feature) (other : List Feature) : FeatureSet :=
  .ofList ([vowel, sonorant, voiced, height, backness] ++ other)

/-- The stops. -/
def stops : List (Char × FeatureSet) :=
  [('p', obstruentOf voiceless stop [labial]),
   ('b', obstruentOf voiced stop [labial]),
   ('t', obstruentOf voiceless stop [coronal, alveolar]),
   ('d', obstruentOf voiced stop [coronal, alveolar]),
   ('ʈ', obstruentOf voiceless stop [coronal, retroflex]),
   ('ɖ', obstruentOf voiced stop [coronal, retroflex]),
   ('c', obstruentOf voiceless stop [dorsal, palatal]),
   ('ɟ', obstruentOf voiced stop [dorsal, palatal]),
   ('k', obstruentOf voiceless stop [dorsal, velar]),
   ('g', obstruentOf voiced stop [dorsal, velar]),
   ('ɡ', obstruentOf voiced stop [dorsal, velar]),
   ('q', obstruentOf voiceless stop [dorsal, uvular]),
   ('ɢ', obstruentOf voiced stop [dorsal, uvular]),
   ('ʔ', obstruentOf voiceless stop [glottal])]

/-- The fricatives. -/
def fricatives : List (Char × FeatureSet) :=
  [('ɸ', obstruentOf voiceless fricative [labial]),
   ('β', obstruentOf voiced fricative [labial]),
   ('f', obstruentOf voiceless fricative [labial]),
   ('v', obstruentOf voiced fricative [labial]),
   ('θ', obstruentOf voiceless fricative [coronal, dental]),
   ('ð', obstruentOf voiced fricative [coronal, dental]),
   ('s', obstruentOf voiceless fricative [coronal, alveolar]),
   ('z', obstruentOf voiced fricative [coronal, alveolar]),
   ('ʃ', obstruentOf voiceless fricative [coronal, postalveolar]),
   ('ʒ', obstruentOf voiced fricative [coronal, postalveolar]),
   ('ʂ', obstruentOf voiceless fricative [coronal, retroflex]),
   ('ʐ', obstruentOf voiced fricative [coronal, retroflex]),
   ('ç', obstruentOf voiceless fricative [dorsal, palatal]),
   ('ʝ', obstruentOf voiced fricative [dorsal, palatal]),
   ('x', obstruentOf voiceless fricative [dorsal, velar]),
   ('ɣ', obstruentOf voiced fricative [dorsal, velar]),
   ('χ', obstruentOf voiceless fricative [dorsal, uvular]),
   ('ʁ', obstruentOf voiced fricative [dorsal, uvular]),
   ('ħ', obstruentOf voiceless fricative [pharyngeal]),
   ('ʕ', obstruentOf voiced fricative [pharyngeal]),
   ('h', obstruentOf voiceless fricative [glottal]),
   ('ɦ', obstruentOf voiced fricative [glottal]),
   ('ɬ', obstruentOf voiceless fricative [coronal, alveolar, lateral]),
   ('ɮ', obstruentOf voiced fricative [coronal, alveolar, lateral])]

/-- The nasals, laterals and rhotics. -/
def sonorants : List (Char × FeatureSet) :=
  [('m', sonorantOf [nasal] [labial]),
   ('ɱ', sonorantOf [nasal] [labial]),
   ('n', sonorantOf [nasal] [coronal, alveolar]),
   ('ɳ', sonorantOf [nasal] [coronal, retroflex]),
   ('ɲ', sonorantOf [nasal] [dorsal, palatal]),
   ('ŋ', sonorantOf [nasal] [dorsal, velar]),
   ('ɴ', sonorantOf [nasal] [dorsal, uvular]),
   ('l', sonorantOf [lateral, approximant] [coronal, alveolar]),
   ('ɫ', sonorantOf [lateral, approximant] [coronal, alveolar, velar]),
   ('ɭ', sonorantOf [lateral, approximant] [coronal, retroflex]),
   ('ʎ', sonorantOf [lateral, approximant] [dorsal, palatal]),
   ('ʟ', sonorantOf [lateral, approximant] [dorsal, velar]),
   ('r', sonorantOf [rhotic, trill] [coronal, alveolar]),
   ('ʀ', sonorantOf [rhotic, trill] [dorsal, uvular]),
   ('ɾ', sonorantOf [rhotic, tap] [coronal, alveolar]),
   ('ɹ', sonorantOf [rhotic, approximant] [coronal, alveolar]),
   ('ɻ', sonorantOf [rhotic, approximant] [coronal, retroflex])]

/-- The glides. -/
def glides : List (Char × FeatureSet) :=
  [('j', sonorantOf [glide, approximant] [dorsal, palatal]),
   ('w', sonorantOf [glide, approximant] [labial, dorsal, velar]),
   ('ɥ', sonorantOf [glide, approximant] [labial, dorsal, palatal]),
   ('ʍ', .ofList [consonant, glide, approximant, voiceless, labial, dorsal, velar]),
   ('ɰ', sonorantOf [glide, approximant] [dorsal, velar])]

/-- The vowels. -/
def vowels : List (Char × FeatureSet) :=
  [('i', vowelOf high front [tense]),
   ('y', vowelOf high front [round, tense]),
   ('ɪ', vowelOf high front []),
   ('ʏ', vowelOf high front [round]),
   ('ɨ', vowelOf high central []),
   ('ʉ', vowelOf high central [round]),
   ('ɯ', vowelOf high back []),
   ('u', vowelOf high back [round, tense]),
   ('ʊ', vowelOf high back [round]),
   ('e', vowelOf mid front [tense]),
   ('ø', vowelOf mid front [round, tense]),
   ('ɛ', vowelOf mid front []),
   ('œ', vowelOf mid front [round]),
   ('ə', vowelOf mid central []),
   ('ɘ', vowelOf mid central []),
   ('ɵ', vowelOf mid central [round]),
   ('ɜ', vowelOf mid central []),
   ('ɞ', vowelOf mid central [round]),
   ('ɤ', vowelOf mid back []),
   ('o', vowelOf mid back [round, tense]),
   ('ʌ', vowelOf mid back []),
   ('ɔ', vowelOf mid back [round]),
   ('æ', vowelOf low front []),
   ('a', vowelOf low front []),
   ('ɶ', vowelOf low front [round]),
   ('ɐ', vowelOf low central []),
   ('ɑ', vowelOf low back []),
   ('ɒ', vowelOf low back [round])]

/-- The table of the common consonants, glides and vowels. -/
def builtin : FeatureTable := ⟨stops ++ fricatives ++ sonorants ++ glides ++ vowels⟩

/-! ### Reading -/

/-- Why a document is no feature table. -/
inductive ReadError where
  /-- The document is not an object of lists of names. -/
  | malformed
  /-- A name is no feature's. -/
  | unknownFeature (name : Text)

/-- A table with the entries of a document layered over it.  Only entries for a
single character count. -/
def layer (table : FeatureTable) :
    List (Text × List Text) → Except ReadError FeatureTable
  | [] => .ok table
  | ([glyph], names) :: rest => do
    let features ← names.mapM fun name =>
      match Feature.read name with
      | some f => Except.ok f
      | none => Except.error (.unknownFeature name)
    layer (table.insert glyph (.ofList features)) rest
  | _ :: rest => layer table rest

/-- The table that a JSON value layers over the builtin one. -/
def ofJson (j : Json) : Except ReadError FeatureTable :=
  match Decoder.entries (Decoder.list Decoder.text) j with
  | some entries => builtin.layer entries
  | none => .error .malformed

end FeatureTable

end PhoneticSearch
