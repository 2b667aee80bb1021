import Warrant.Signature.Ed25519
import Warrant.Verification

namespace Warrant

/-- A verifier that is told and asked things line by line. -/
structure Session where
  verifier : Verifier
  limits : Limits

/-- What a line is answered with. -/
inductive Reply where
  | nothing
  | done
  | text (text : String)
  | facts (facts : List String)
  deriving DecidableEq

def Reply.render : Reply → String
  | nothing => ""
  | done => "ok"
  | text t => t
  | facts [] => "no results"
  | facts fs => "\n".intercalate fs

/-- A time in milliseconds in its largest unit, with the digits that it needs. -/
def renderMillis (millis : Nat) : String :=
  if millis = 0 then "0ns"
  else if millis < 1000 then toString millis ++ "ms"
  else
    let fraction := Text.Calendar.padded 3 (millis % 1000)
    let shown := (fraction.reverse.dropWhile (· == '0')).reverse
    toString (millis / 1000) ++
      (if shown.isEmpty then "" else "." ++ String.ofList shown) ++ "s"

def Limits.render (limits : Limits) : String :=
  "max facts: " ++ toString limits.maxFacts ++ ", max iterations: " ++
    toString limits.maxIterations ++ ", max time: " ++ renderMillis limits.maxMillis

/-- Limits given as three numbers. -/
def Limits.ofWords (words : List (List Char)) : Except InputError Limits :=
  match words.mapM Text.word64? with
  | some [facts, iterations, millis] => .ok ⟨facts.toNat, iterations.toNat, millis.toNat⟩
  | _ => .error .limitsUsage

namespace Session

def empty : Session := ⟨.empty, {}⟩

instance : Inhabited Session := ⟨empty⟩

def help : String :=
  "statements:\n" ++
  "  fact(\"a\", 1)                      add a fact\n" ++
  "  head($x) <- body($x), $x > 1       add a rule\n" ++
  "  check if body($x) or other($x)     add a check\n" ++
  "  allow if ... / deny if ...         add a policy\n" ++
  "  ?- body($x, $y)                    run the rules and list the matches\n" ++
  "commands:\n" ++
  "  :verify                            verify a copy of the current state\n" ++
  "  :token <base64> <hex root key>     load a token\n" ++
  "  :world                             print facts, rules, checks and policies\n" ++
  "  :limits [facts iterations millis]  show or set the run limits\n" ++
  "  :now                               add current_time(#ambient, <now>)\n" ++
  "  :reset                             start over\n" ++
  "  :quit"

/-- The token that a text in base 64 writes, signed under a key in hexadecimal digits. -/
def readToken (data key : String) : Except Error (Token Signature.Ed25519.scheme) :=
  match Text.Hex.decode (Text.Utf8.encode key) with
  | .error fault => .error (.input (.key fault))
  | .ok bytes =>
    match PublicKey.ofBytes bytes with
    | .error fault => .error (.format (.key fault))
    | .ok root => Token.ofBase64 data fun _ => some root

/-- Adds the token that two words give. -/
def loadToken (session : Session) : List (List Char) → Session × Except Error Reply
  | data :: key :: _ =>
    match readToken (String.ofList data) (String.ofList key) with
    | .error e => (session, .error e)
    | .ok token =>
      match session.verifier.addToken token with
      | (verifier, .error e) => ({ session with verifier := verifier }, .error e)
      | (verifier, .ok ()) =>
        ({ session with verifier := verifier }, .ok (.text token.render))
  | _ => (session, .error (.input .tokenUsage))

/-- Changes the limits if there are words for new ones, and shows them. -/
def showLimits (session : Session) (words : List (List Char)) : Session × Except Error Reply :=
  if words.isEmpty then (session, .ok (.text session.limits.render))
  else
    match Limits.ofWords words with
    | .error e => (session, .error (.input e))
    | .ok limits => ({ session with limits := limits }, .ok (.text limits.render))

/-- Tells the verifier a statement, or asks it a query. -/
def tell (session : Session) : Source.Statement → Session × Except Error Reply
  | .query rule =>
    match session.verifier.query rule session.limits with
    | (verifier, .error e) => ({ session with verifier := verifier }, .error e)
    | (verifier, .ok facts) =>
      ({ session with verifier := verifier },
        .ok (.facts (facts.map (PredicateOf.render verifier.symbols))))
  | statement =>
    match session.verifier.push statement with
    | (verifier, .error e) => ({ session with verifier := verifier }, .error e)
    | (verifier, .ok ()) => ({ session with verifier := verifier }, .ok .done)

/-- Carries out a command, given by its words. `now` is the time in milliseconds since the start
    of 1970. Verifying adds facts, so it is done on a copy. -/
def command (session : Session) (now : Int) (name : String) (words : List (List Char)) :
    Session × Except Error Reply :=
  match name with
  | ":help" => (session, .ok (.text help))
  | ":world" => (session, .ok (.text session.verifier.render))
  | ":now" => ({ session with verifier := session.verifier.setTime now }, .ok .done)
  | ":reset" => (empty, .ok .done)
  | ":verify" =>
    match (session.verifier.verify session.limits).2 with
    | .error e => (session, .error e)
    | .ok policy => (session, .ok (.text ("allowed by policy " ++ toString policy)))
  | ":limits" => session.showLimits words
  | ":token" => session.loadToken words
  | other => (session, .error (.input (.unknownCommand other)))

/-- Answers a line: a command, which a colon begins, or a statement. -/
def eval (session : Session) (now : Int) (line : String) : Session × Except Error Reply :=
  let text := Text.trim line.toList
  match Text.words text with
  | [] => (session, .ok .nothing)
  | (':' :: name) :: words => session.command now (String.ofList (':' :: name)) words
  | _ =>
    match Grammar.readStatement (String.ofList text) with
    | .error fault => (session, .error (.input (.grammar fault)))
    | .ok statement => session.tell statement

end Session

end Warrant
