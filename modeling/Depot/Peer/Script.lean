import Depot.Http.Response

/-!
# A peer that follows a script

A script is a list of rules, each for some requests, with an answer.  The first rule that is for a request
and neither used up nor still to be skipped answers it, and is used up by one.

`Script.hear` adds what every scripted peer reports on a body of bytes that somebody follows: first that all
of it has been sent, then what the rule says.
-/

namespace Depot.Script

/-- One rule. -/
structure Rule where
  /-- The method and the target, or a beginning of them with a star behind it. -/
  pattern : String
  /-- What the rule reports and answers. -/
  answer : Reply
  /-- How many more requests it answers; any number if there is none. -/
  times : Option Nat
  /-- How many requests it lets pass first. -/
  skip : Nat

/-- What a rule is compared with. -/
def key (request : Request) : String := s!"{request.method} {request.target.text}"

/-- The rule is for a request with this key. -/
def Rule.isFor (r : Rule) (key : String) : Bool :=
  if r.pattern.endsWith "*" then key.startsWith (r.pattern.dropEnd 1).toString else r.pattern == key

/-- The answer of the first rule that has one, and the rules afterwards. -/
def consult (key : String) : List Rule → Option Reply × List Rule
  | [] => (none, [])
  | r :: rest =>
    if !r.isFor key || r.times == some 0 then
      let (reply, rest) := consult key rest
      (reply, r :: rest)
    else if 0 < r.skip then
      let (reply, rest) := consult key rest
      (reply, { r with skip := r.skip - 1 } :: rest)
    else (some r.answer, { r with times := r.times.map (· - 1) } :: rest)

/-- The reply to a request as it is heard by whoever sent it: reports on the body only if they were asked
for, and first that a body of bytes has been sent. -/
def hear (request : Request) (reply : Reply) : Reply :=
  if request.reportsProgress then
    match request.body with
    | .bytes data => { reply with progress := (data.length, data.length) :: reply.progress }
    | _ => reply
  else { reply with progress := [] }

/-- The reply where no rule answers. -/
def unanswered (request : Request) : Reply := .error (.connection s!"no rule for {key request}")

end Depot.Script
