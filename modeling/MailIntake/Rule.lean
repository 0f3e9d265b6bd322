import MailIntake.Office
import MailIntake.Resolver
import MailIntake.Text.Redact
import MailIntake.Text.Utf8
/-!
Rules: a small language for checkers.  A rule is an action, perhaps under a condition on the
transaction; a checker made of rules carries them out in order up to the first that refuses.
-/
namespace MailIntake

open Text Address

/-- What a checker sees beside the transaction, at the stages that have it. -/
structure Occasion where
  candidate : Option ForwardPath := none
  username : Option String := none
  password : Option String := none

/-- A text that rules can look at. -/
inductive Field
  | helo
  | sender
  | body
  | ptr
  | karma
  | candidate
  | username
  | password
  | fact (key : String)
  | header (key : String)
deriving DecidableEq, Repr

/-- The text of a field; what is missing is empty. -/
def Field.text (occasion : Occasion) (tx : Transaction) : Field → String
  | .helo => tx.peer.helo.getD ""
  | .sender => (tx.envelope.sender.map ReversePath.render).getD ""
  | .body => Utf8.decodeLossy tx.envelope.body
  | .ptr => tx.peer.ptrs.headD ""
  | .karma => toString tx.karma
  | .candidate => (occasion.candidate.map ForwardPath.render).getD ""
  | .username => occasion.username.getD ""
  | .password => occasion.password.getD ""
  | .fact key => (tx.metadata.fact? key).getD ""
  | .header key => (tx.header? key).getD ""

inductive Comparison
  | equals
  | startsWith
  | contains
deriving DecidableEq, Repr

def occursIn (part : List Char) : List Char → Bool
  | [] => part.isEmpty
  | c :: rest => part.isPrefixOf (c :: rest) || occursIn part rest

def Comparison.holds (pattern text : String) : Comparison → Bool
  | .equals => text == pattern
  | .startsWith => pattern.toList.isPrefixOf text.toList
  | .contains => occursIn pattern.toList text.toList

inductive Condition
  | flag (key : String)
  | karmaBelow (bound : Int)
  | field (field : Field) (comparison : Comparison) (pattern : String)
deriving DecidableEq, Repr

def Condition.holds (occasion : Occasion) (tx : Transaction) : Condition → Bool
  | .flag key => tx.metadata.isFlagSet key
  | .karmaBelow bound => tx.karma < bound
  | .field f comparison pattern => comparison.holds pattern (f.text occasion tx)

inductive LookupKind
  | addresses
  | texts
  | exchangers
  | names
deriving DecidableEq, Repr

/-- The answer to a lookup in one text; one that goes on for ever has none. -/
def answerText {A : Type} (render : A → String) : Lookup (List A) → Option String
  | .found items => some (",".intercalate (items.map render))
  | .failed message => some message
  | .pending => none

def LookupKind.ask (resolver : Resolver) (name : String) : LookupKind → Option String
  | .addresses => answerText Ip.render (resolver.addresses name)
  | .texts => answerText id (resolver.texts name)
  | .exchangers =>
      answerText (fun r => toString r.preference.toNat ++ " " ++ r.exchange)
        (resolver.exchangers name)
  | .names => (Ip.parse? name).bind fun ip => answerText id (resolver.names ip)

/-- What a rule does. -/
inductive Action
  | setFact (key value : String)
  | appendFact (key value : String)
  /-- Keeps a field as a fact, identifiers and dates hidden. -/
  | copyField (key : String) (field : Field)
  | incrCounter (key : String) (delta : Float)
  | setCounter (key : String) (value : Float)
  | setFlag (key : String)
  | unsetFlag (key : String)
  | reward (amount : Int)
  | penalize (amount : Int)
  | addAlias (address : String)
  | stampReceived
  | deliver
  | logClose
  /-- Keeps the answer to a lookup as a fact. -/
  | resolve (kind : LookupKind) (key name : String)
  | refuse (refusal : Refusal)

def onMetadata (f : Metadata → Metadata) : Checker Office := fun tx office =>
  Checker.pass (tx.withMetadata (f tx.metadata)) office

def Action.checker (resolver : Resolver) (occasion : Occasion) : Action → Checker Office
  | .setFact key value => onMetadata (·.setFact key value)
  | .appendFact key value =>
      onMetadata fun m => m.setFact key ((m.fact? key).getD "" ++ value)
  | .copyField key field => fun tx =>
      onMetadata (·.setFact key (Redact.hide (field.text occasion tx))) tx
  | .incrCounter key delta => onMetadata (·.incrCounter key delta)
  | .setCounter key value => onMetadata (·.setCounter key value)
  | .setFlag key => onMetadata (·.setFlag key)
  | .unsetFlag key => onMetadata (·.unsetFlag key)
  | .reward amount => onMetadata (·.reward amount)
  | .penalize amount => onMetadata (·.penalize amount)
  | .addAlias address => fun tx =>
      let aliases := tx.envelope.aliases ++ [address]
      Checker.pass { tx with envelope := { tx.envelope with aliases } }
  | .stampReceived => Office.stampReceived
  | .deliver => Office.deliver
  | .logClose => Office.logClose
  | .resolve kind key name =>
      match kind.ask resolver name with
      | some answer => onMetadata (·.setFact key answer)
      | none => Checker.pass
  | .refuse refusal => fun tx office =>
      { transaction := tx, world := office, refusal := some refusal }

/-- An action, perhaps under a condition. -/
structure Rule where
  condition : Option Condition := none
  action : Action

namespace Rule

def applies (r : Rule) (occasion : Occasion) (tx : Transaction) : Bool :=
  r.condition.all (·.holds occasion tx)

/-- The checker that carries out rules in order up to the first that refuses. -/
def checker (resolver : Resolver) (occasion : Occasion) : List Rule → Checker Office
  | [], tx, office => Checker.pass tx office
  | rule :: more, tx, office =>
      if rule.applies occasion tx then
        let verdict := rule.action.checker resolver occasion tx office
        match verdict.refusal with
        | some _ => verdict
        | none => checker resolver occasion more verdict.transaction verdict.world
      else checker resolver occasion more tx office

end Rule
end MailIntake
