import HybridSearch.TextIndex.Match

/-!
# Ranking rows

The rank of a row is a sum over the phrases: rare phrases weigh more, and occurrences count less the
more there are and the longer the row is compared with the average.
-/
namespace HybridSearch.Rank

def half : Binary64 := Binary64.ofDecimal 5 (-1)

def saturation : Binary64 := Binary64.ofDecimal 12 (-1)

def lengthWeight : Binary64 := Binary64.ofDecimal 75 (-2)

/-- The weight of a phrase so common that it would count against a row. -/
def leastWeight : Binary64 := Binary64.ofDecimal 1 (-6)

/-- The weight of a phrase that `hits` of `rows` rows contain. -/
def weight (rows hits : Nat) : Binary64 :=
  let w := ((Binary64.ofInt ((rows : Int) - hits) + half) / (Binary64.ofNat hits + half)).ln
  if w.le Binary64.zero then leastWeight else w

/-- What the figures of all rows say about a ranking. -/
structure Corpus where
  averageLength : Binary64
  weights : List Binary64

def Corpus.ofRows (phrases : List Phrase) (rows : List RowTokens) : Corpus where
  averageLength :=
    Binary64.ofNat ((rows.map RowTokens.total).foldr (· + ·) 0) / Binary64.ofNat rows.length
  weights := phrases.map fun p => weight rows.length (rows.countP p.occursIn)

def share (averageLength phraseWeight : Binary64) (occurrences length : Nat) : Binary64 :=
  let f := Binary64.ofNat occurrences
  let scale := Binary64.one - lengthWeight + lengthWeight * Binary64.ofNat length / averageLength
  phraseWeight * (f * (saturation + Binary64.one) / (f + saturation * scale))

def score (c : Corpus) (phrases : List Phrase) (r : RowTokens) : Binary64 :=
  (phrases.zip c.weights).foldl
    (fun sum p => sum + share c.averageLength p.2 (p.1.occurrences r) r.total) Binary64.zero

end HybridSearch.Rank
