import TapeMeasure.Token.Basic

/- The skeleton of an expression: all of its tokens that bear on its value. Blanks are gone from
   every level, only literals have lengths, and only groups have nodes inside. -/
set_option autoImplicit false

namespace TapeMeasure

inductive Node where
  | group (label : Label) (nodes : List Node)
  | literal (label : Label) (value : Length)
  | other (label : Label)

namespace Node

def label : Node → Label
  | .group label _ => label
  | .literal label _ => label
  | .other label => label

mutual
def ofToken : Token → Node
  | ⟨label, value, nodes⟩ =>
      if label.kind = .paren then .group label (ofTokens nodes)
      else if label.kind.isValue then
        match value with
        | some value => .literal label value
        | none => .other label
      else .other label
def ofTokens : List Token → List Node
  | [] => []
  | token :: rest =>
      if token.label.kind = .whitespace then ofTokens rest
      else ofToken token :: ofTokens rest
end

theorem of_token_eq (token : Token) :
    ofToken token =
      if token.label.kind = .paren then .group token.label (ofTokens token.nodes)
      else if token.label.kind.isValue then
        match token.value with
        | some value => .literal token.label value
        | none => .other token.label
      else .other token.label := by
  cases token
  rw [ofToken.eq_def]

end Node

end TapeMeasure
