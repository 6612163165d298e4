import Restack.Script.Grammar.Basic

/-!
# How markup is written

Elements between angle brackets, their attributes and what stands between their tags.
-/

namespace Restack.Script.Grammar

open Form

/-- A name of markup. -/
def markupName : Form := unit .dashedName <|> name

/-- A name with a space of names in front. -/
def jsxNamespaceName : Form := markupName ++ sign ":" ++ markupName

/-- A name within others, as an access to a member. -/
def memberPath : Form := renamed .memberExpression (node .nestedIdentifier)

/-- The beginning of a tag, up to what closes it. -/
def tagHead : Form :=
  let setting : Form := node .jsxAttribute <|> node .jsxExpression
  sign "<" ++
    maybe
      ((label .name (markupName <|> node .jsxNamespaceName) <|>
          (label .name (name <|> memberPath) ++ applied)) ++
        many setting)

/-- An element with other parts in it. -/
def jsxElement : Form :=
  let child : Form :=
    unit .markupText <|> unit .entity <|> node .jsxElement <|> node .jsxSelfClosingElement <|>
      node .jsxExpression
  label .openTag (node .jsxOpeningElement) ++ many child ++ node .jsxClosingElement

/-- A tag that opens an element. -/
def jsxOpeningElement : Form := favoured (-1) (tagHead ++ sign ">")

/-- A tag that closes an element. -/
def jsxClosingElement : Form :=
  sign "</" ++ maybe (label .name (markupName <|> memberPath <|> node .jsxNamespaceName)) ++
    sign ">"

/-- An element without other parts in it. -/
def jsxSelfClosingElement : Form := favoured (-1) (tagHead ++ sign "/>")

/-- An attribute of an element. -/
def jsxAttribute : Form :=
  let value : Form :=
    renamed .string (part .attributeString) <|> node .jsxExpression <|> node .jsxElement <|>
      node .jsxSelfClosingElement
  (renamed .propertyIdentifier markupName <|> node .jsxNamespaceName) ++
    maybe (sign "=" ++ value)

/-- The string of an attribute. -/
def attributeString : Form :=
  let between (mark : Char) : Form :=
    sign mark.toString ++ many (unit (.attributePart mark) <|> unit .entity) ++ sign mark.toString
  between '\x22' <|> between '\x27'

/-- An expression within markup. -/
def jsxExpression : Form :=
  sign "\x7b" ++
    maybe (part .expression <|> node .sequenceExpression <|> node .spreadElement) ++
    sign "\x7d"

end Restack.Script.Grammar
