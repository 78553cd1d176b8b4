-- Request methods: any token is one, and its case counts.
import HttpCalls.Http.Headers

namespace HttpCalls

/-- A request method. -/
structure Method where
  text : List Char
  valid : isToken text = true
deriving DecidableEq

namespace Method

/-- The method that a text spells, if it is a token. -/
def ofText? (text : List Char) : Option Method :=
  if h : isToken text = true then some ⟨text, h⟩ else none

/-- The method that asks for a resource. -/
def get : Method := ⟨"GET".toList, by decide⟩

/-- The method that asks for the headers of a resource only. -/
def head : Method := ⟨"HEAD".toList, by decide⟩

/-- The methods whose requests may carry a body. -/
def withBody : List (List Char) :=
  ["POST".toList, "PUT".toList, "PATCH".toList, "DELETE".toList, "OPTIONS".toList]

/-- Whether requests of this method may carry a body. -/
def permitsBody (m : Method) : Bool := withBody.contains m.text

end Method

end HttpCalls
