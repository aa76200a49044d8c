import NodeProbe.Text.Basic
import NodeProbe.Text.CaseTable

/-!
# Upper and lower case

Letters are mapped to the other case as Unicode says, independent of any language: most letters to
one letter, a few to several, and a capital sigma at the end of a word to its final form. A lone
half of a character has no case.
-/

namespace NodeProbe.Text

/-- The piece is a character in one of the ranges. -/
def pieceInRanges (ranges : List (Nat × Nat)) : Piece → Bool
  | .inl c => inRanges ranges c
  | .inr _ => false

/-- The first piece that is not skipped has case. -/
def startsCased (ps : List Piece) : Bool :=
  match ps.dropWhile (pieceInRanges caseIgnorableRanges) with
  | p :: _ => pieceInRanges casedRanges p
  | [] => false

/-- Lower case of some pieces, where `before` holds those in front of them, nearest first: a capital
sigma after a cased letter and not before one takes its final form. -/
def lowerFrom (before : List Piece) : List Piece → List Piece
  | [] => []
  | p :: rest =>
    let mapped : List Piece :=
      match p with
      | .inl c =>
        if c = 'Σ' then
          if startsCased before && !startsCased rest then [.inl 'ς'] else [.inl 'σ']
        else (mapChar lowerRuns lowerExpansions c).map .inl
      | .inr u => [.inr u]
    mapped ++ lowerFrom (p :: before) rest

/-- The text in lower case. -/
def lower (t : Text) : Text :=
  ofPieces (lowerFrom [] t.pieces)

/-- A piece in upper case. -/
def upperPiece : Piece → List Piece
  | .inl c => (mapChar upperRuns upperExpansions c).map .inl
  | .inr u => [.inr u]

/-- The text in upper case. -/
def upper (t : Text) : Text :=
  ofPieces (t.pieces.flatMap upperPiece)

end NodeProbe.Text
