import Dialogue.Markup.Node

/-!
# Legacy tags

Older templates spell some tags differently. An expansion gives the canonical tag for such a
spelling, without evaluating anything. The star shorthands are always understood; all other
spellings only where deprecated tags are supported.
-/

namespace Dialogue.Legacy

open Markup

/-- What to put in the place of a legacy tag. -/
inductive Expansion where
  /-- A tag that closes itself. -/
  | selfClosing (tag : Tag)
  /-- An element around `<star/>`. -/
  | aroundStar (outer : Tag)
  /-- An element that holds the evaluated content of the legacy tag as text. -/
  | withContent (tag : Tag)
deriving DecidableEq, Repr

def starTag : Tag := .bare "star".toList

namespace Expansion

/-- The canonical node. The content is used only where the expansion asks for it. -/
def toNode (content : Text) : Expansion → Node
  | .selfClosing tag => .selfClosing tag
  | .aroundStar outer => .element outer [.selfClosing starTag]
  | .withContent tag => .element tag [.text content]

/-- The expansion asks for the evaluated content of the legacy tag. -/
def needsContent : Expansion → Bool
  | .withContent _ => true
  | _ => false

end Expansion

/-- There is no expansion for a tag of this name. -/
structure UnknownTag where
  name : Text
deriving DecidableEq, Repr

def UnknownTag.message (e : UnknownTag) : Text :=
  "No rewrite rule for legacy tag <".toList ++ e.name ++ ">".toList

/-- The tags that stand for themselves around `<star/>` when they close themselves, and the
tag that each stands for. -/
def starShorthands : List (Text × Text) :=
  [("sr".toList, "srai".toList), ("person".toList, "person".toList),
   ("person2".toList, "person2".toList)]

def propertyShorthands : List (Text × Text) :=
  [("name".toList, "name".toList), ("birthday".toList, "birthday".toList),
   ("birthplace".toList, "birthplace".toList), ("boyfriend".toList, "boyfriend".toList),
   ("favoriteband".toList, "favoriteband".toList), ("favoritebook".toList, "favoritebook".toList),
   ("favoritecolor".toList, "favoritecolor".toList),
   ("favoritefood".toList, "favoritefood".toList),
   ("favoritemovie".toList, "favoritemovie".toList),
   ("favoritesong".toList, "favoritesong".toList), ("for_fun".toList, "forfun".toList),
   ("friends".toList, "friends".toList), ("girlfriend".toList, "girlfriend".toList),
   ("kind_music".toList, "kindmusic".toList), ("location".toList, "location".toList),
   ("look_like".toList, "looklike".toList), ("botmaster".toList, "master".toList),
   ("question".toList, "question".toList), ("sign".toList, "sign".toList),
   ("talk_about".toList, "talkabout".toList), ("wear".toList, "wear".toList)]

/-- The tags that stand for a canonical tag that closes itself. -/
def selfClosingRules : List (Text × Tag) :=
  [("justbeforethat".toList, .withAttributes "that".toList [("index".toList, "2,1".toList)]),
   ("justthat".toList, .withAttributes "input".toList [("index".toList, "2".toList)]),
   ("beforethat".toList, .withAttributes "input".toList [("index".toList, "3".toList)]),
   ("getname".toList, .withAttributes "get".toList [("name".toList, "name".toList)]),
   ("gettopic".toList, .withAttributes "get".toList [("name".toList, "topic".toList)]),
   ("getsize".toList, .bare "size".toList), ("getversion".toList, .bare "version".toList),
   ("get_ip".toList, .bare "id".toList)]

def setRules : List (Text × Text) :=
  [("settopic".toList, "topic".toList), ("setname".toList, "name".toList)]

/-- The tag with the given name and a `name` attribute. -/
def named (tag name : Text) : Tag := .withAttributes tag [("name".toList, name)]

/-- What follows a prefix, if the text has the prefix and something follows it. -/
def afterPrefix? (beginning text : Text) : Option Text :=
  if beginning.isPrefixOf text && beginning.length < text.length then
    some (text.drop beginning.length)
  else none

def deprecatedExpansion? (name : Text) : Option Expansion :=
  ((propertyShorthands.lookup name).map fun property => .selfClosing (named "bot".toList property))
    <|> ((selfClosingRules.lookup name).map .selfClosing)
    <|> ((setRules.lookup name).map fun predicate => .withContent (named "set".toList predicate))
    <|> ((afterPrefix? "set_".toList name).map fun predicate =>
      .withContent (named "set".toList predicate))
    <|> ((afterPrefix? "get_".toList name).map fun predicate =>
      .selfClosing (named "get".toList predicate))

def expansion? (supportDeprecated : Bool) (name : Text) : Option Expansion :=
  match starShorthands.lookup name with
  | some outer => some (.aroundStar (.bare outer))
  | none =>
    if name = "gender".toList then
      some (if supportDeprecated then .selfClosing (named "bot".toList "gender".toList)
        else .aroundStar (.bare "gender".toList))
    else if supportDeprecated then deprecatedExpansion? name
    else none

/-- The expansion of a node. Only tags have one. -/
def expansionOfNode? (supportDeprecated : Bool) (n : Node) : Except UnknownTag Expansion :=
  match n.name? with
  | some name =>
    match expansion? supportDeprecated name with
    | some x => .ok x
    | none => .error ⟨name⟩
  | none => .error ⟨[]⟩

end Dialogue.Legacy
