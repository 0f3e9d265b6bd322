import MailIntake.XClient
import MailIntake.Proofs.Text.Split
import Mathlib.Data.List.Nodup
/-!
Lists of attributes.  Every argument sets at most the attribute that it names, whatever stands
before it, and a list sets what its parts set, the later part before the earlier one.  So arguments
that name different attributes may change places, and those that set nothing may stand anywhere
(`parse_combines`).
-/
namespace MailIntake

open Text

namespace XClientAttributes

/-- What two lists set one after the other: where the later one sets something, that stands. -/
def merge (earlier later : XClientAttributes) : XClientAttributes where
  addr := later.addr.or earlier.addr
  port := later.port.or earlier.port
  proto := later.proto.or earlier.proto
  helo := later.helo.or earlier.helo
  login := later.login.or earlier.login

theorem merge_assoc (first second third : XClientAttributes) :
    (first.merge second).merge third = first.merge (second.merge third) := by
  simp only [merge, Option.or_assoc]

/-- What an argument of this name can set. -/
inductive Sets : String → XClientAttributes → Prop
  | nothing (name : String) : Sets name {}
  | addr (ip : Address.Ip) : Sets "ADDR" { addr := some ip }
  | port (number : UInt16) : Sets "PORT" { port := some number }
  | proto (protocol : XClientProto) : Sets "PROTO" { proto := some protocol }
  | helo (name : String) : Sets "HELO" { helo := some name }
  | login (name : String) : Sets "LOGIN" { login := some name }

/-- What arguments of different names set does not depend on their order. -/
theorem Sets.merge_comm {name other : String} {one two : XClientAttributes}
    (hone : Sets name one) (htwo : Sets other two) (hne : name ≠ other) :
    one.merge two = two.merge one := by
  cases hone <;> cases htwo <;> simp [merge] at hne ⊢

/-- A value sets the same whatever has been set before. -/
theorem assign_eq (attrs : XClientAttributes) (name value : String) :
    assign attrs name value = (assign {} name value).map attrs.merge := by
  unfold assign
  split
  · rfl
  split
  · split <;> rfl
  split
  · split <;> rfl
  split
  · cases protoOf value <;> rfl
  split
  · rfl
  split <;> rfl

theorem sets_of_assign {name value : String} {one : XClientAttributes}
    (hassign : assign {} name value = .ok one) : Sets name one := by
  unfold assign at hassign
  split at hassign
  · cases hassign
    exact .nothing name
  split at hassign
  · next hname =>
      subst hname
      split at hassign
      · next ip _ =>
          cases hassign
          exact .addr ip
      · cases hassign
  split at hassign
  · next hname =>
      subst hname
      split at hassign
      · next port _ =>
          cases hassign
          exact .port (UInt16.ofNat port)
      · cases hassign
  split at hassign
  · next hname =>
      subst hname
      cases hproto : protoOf value with
      | error e =>
          rw [hproto] at hassign
          cases hassign
      | ok protocol =>
          rw [hproto] at hassign
          cases hassign
          exact .proto protocol
  split at hassign
  · next hname =>
      subst hname
      cases hassign
      exact .helo value
  split at hassign
  · next hname =>
      subst hname
      cases hassign
      exact .login value
  · cases hassign

/-- The attribute that an argument names, in upper case: what stands before its first sign of
equality. -/
def key? (argument : String) : Option String :=
  (cutOnce (· == '=') argument.toList).map fun cut => Ascii.upper (String.ofList cut.1)

theorem key?_of_pair {argument name value : String} (hpair : pair argument = .ok (name, value)) :
    key? argument = some name := by
  rw [pair] at hpair
  split at hpair
  · cases hpair
  · next hcut =>
      split at hpair
      · cases hpair
      · cases hpair
        rw [key?, hcut]
        rfl

/-- An argument sets the same whatever stands before it. -/
theorem add_eq (attrs : XClientAttributes) (argument : String) :
    add attrs argument = (add {} argument).map attrs.merge := by
  unfold add
  cases pair argument with
  | error e => rfl
  | ok cut =>
      obtain ⟨name, value⟩ := cut
      simp only [bind, Except.bind]
      split
      · rfl
      · exact assign_eq attrs name value

theorem sets_of_add {argument : String} {one : XClientAttributes}
    (hadd : add {} argument = .ok one) : ∃ name, key? argument = some name ∧ Sets name one := by
  unfold add at hadd
  cases hpair : pair argument with
  | error e =>
      rw [hpair] at hadd
      cases hadd
  | ok cut =>
      obtain ⟨name, value⟩ := cut
      refine ⟨name, key?_of_pair hpair, ?_⟩
      rw [hpair] at hadd
      simp only [bind, Except.bind] at hadd
      split at hadd
      · cases hadd
        exact .nothing name
      · exact sets_of_assign hadd

/-- What a list sets; an empty one sets nothing. -/
def collect (arguments : List String) : Except XClientError XClientAttributes :=
  arguments.foldlM add {}

theorem parse_of_ne_nil {arguments : List String} (hne : arguments ≠ []) :
    parse arguments = collect arguments := by
  rw [parse, if_neg (by simpa using hne), collect]

/-- What was set before a list stays where the list sets nothing. -/
theorem foldlM_add (attrs : XClientAttributes) (arguments : List String) :
    arguments.foldlM add attrs = (collect arguments).map attrs.merge := by
  induction arguments generalizing attrs with
  | nil => rfl
  | cons argument rest ih =>
      rw [collect, List.foldlM_cons, List.foldlM_cons, add_eq attrs]
      cases add {} argument with
      | error e => rfl
      | ok one =>
          calc
            rest.foldlM add (attrs.merge one)
                = (collect rest).map (attrs.merge one).merge := ih _
            _ = ((collect rest).map one.merge).map attrs.merge := by
                cases collect rest with
                | error e => rfl
                | ok more => exact congrArg Except.ok (merge_assoc attrs one more)
            _ = (rest.foldlM add one).map attrs.merge := by rw [ih one]

theorem collect_append (first second : List String) :
    collect (first ++ second) = do
      let earlier ← collect first
      let later ← collect second
      return earlier.merge later := by
  rw [collect, List.foldlM_append, ← collect]
  cases collect first with
  | error e => rfl
  | ok earlier =>
      simp only [bind, Except.bind]
      rw [foldlM_add]
      cases collect second with
      | error e => rfl
      | ok later => rfl

theorem collect_cons_eq_ok {argument : String} {rest : List String} {attrs : XClientAttributes} :
    collect (argument :: rest) = .ok attrs ↔
      ∃ one more, add {} argument = .ok one ∧ collect rest = .ok more ∧ one.merge more = attrs := by
  rw [collect, List.foldlM_cons]
  cases add {} argument with
  | error e => simp [bind, Except.bind]
  | ok one =>
      simp only [bind, Except.bind, foldlM_add]
      cases collect rest with
      | error e => simp [Except.map]
      | ok more => simp [Except.map]

/-- Two arguments that name different attributes may change places. -/
theorem collect_swap {first second : String} (hkeys : ([first, second].filterMap key?).Nodup)
    {rest : List String} {attrs : XClientAttributes}
    (hcollect : collect (first :: second :: rest) = .ok attrs) :
    collect (second :: first :: rest) = .ok attrs := by
  simp only [collect_cons_eq_ok] at hcollect ⊢
  obtain ⟨one, _, hone, ⟨two, more, htwo, hmore, rfl⟩, rfl⟩ := hcollect
  have hcomm : one.merge two = two.merge one := by
    obtain ⟨name, hname, hsets⟩ := sets_of_add hone
    obtain ⟨other, hother, hsetsOther⟩ := sets_of_add htwo
    refine hsets.merge_comm hsetsOther ?_
    rintro rfl
    simp [hname, hother] at hkeys
  refine ⟨two, _, htwo, ⟨one, more, hone, hmore, rfl⟩, ?_⟩
  rw [← merge_assoc, ← hcomm, merge_assoc]

/-- The order of arguments that name different attributes makes no difference to what they set. -/
theorem collect_perm {arguments others : List String} (hperm : arguments.Perm others)
    (hkeys : (arguments.filterMap key?).Nodup) (attrs : XClientAttributes) :
    collect arguments = .ok attrs ↔ collect others = .ok attrs := by
  induction hperm generalizing attrs with
  | nil => exact Iff.rfl
  | cons argument _ ih =>
      have hrest := ih (hkeys.sublist ((List.sublist_cons_self argument _).filterMap key?))
      simp only [collect_cons_eq_ok, hrest]
  | swap first second rest =>
      have hpair : ([second, first].filterMap key?).Nodup :=
        hkeys.sublist ((List.prefix_append [second, first] rest).sublist.filterMap key?)
      have hswapped : ([first, second].filterMap key?).Nodup :=
        ((List.Perm.swap first second []).filterMap key?).nodup_iff.mp hpair
      exact ⟨collect_swap hpair, collect_swap hswapped⟩
  | trans hfirst _ ihFirst ihSecond =>
      have hsame := (hfirst.filterMap key?).nodup_iff
      exact (ihFirst hkeys attrs).trans (ihSecond (hsame.mp hkeys) attrs)

/-- Arguments that set nothing: a name of the client, which is not believed, and attributes of which
the client says that it has none. -/
def IsIdle (argument : String) : Prop :=
  ∃ key text value, argument = key ++ "=" ++ text ∧ '=' ∉ key.toList ∧
    Xtext.decode? text = some value ∧
    (Ascii.upper key = "NAME" ∨
      Ascii.upper key ∈ names ∧ (value = "[UNAVAILABLE]" ∨ value = "[TEMPUNAVAIL]"))

theorem pair_eq_ok {key text value : String} (hkey : '=' ∉ key.toList)
    (hvalue : Xtext.decode? text = some value) :
    pair (key ++ "=" ++ text) = .ok (Ascii.upper key, value) := by
  have hplain : ∀ c ∈ key.toList, (c == '=') = false := by
    intro c hc
    rw [beq_eq_false_iff_ne]
    rintro rfl
    exact hkey hc
  have hargument : (key ++ "=" ++ text).toList = key.toList ++ '=' :: text.toList := by simp
  rw [pair, hargument, cutOnce_append_cons hplain (by decide)]
  simp only [String.ofList_toList, hvalue]

theorem add_of_isIdle {argument : String} (hidle : IsIdle argument) (attrs : XClientAttributes) :
    add attrs argument = .ok attrs := by
  obtain ⟨key, text, value, rfl, hkey, hvalue, hsays⟩ := hidle
  rw [add, pair_eq_ok hkey hvalue]
  simp only [bind, Except.bind]
  split
  · rfl
  · next hsets =>
      rcases hsays with hname | ⟨hknown, hnone⟩
      · rw [assign, if_pos hname]
      · refine absurd ?_ hsets
        rcases hnone with rfl | rfl <;> simp [isUnavailable, hknown]

/-- The second list is the first one with arguments put in that set nothing, anywhere. -/
inductive Padded : List String → List String → Prop
  | nil : Padded [] []
  | keep (argument : String) {arguments others : List String} (hrest : Padded arguments others) :
      Padded (argument :: arguments) (argument :: others)
  | insert {argument : String} (hidle : IsIdle argument) {arguments others : List String}
      (hrest : Padded arguments others) : Padded arguments (argument :: others)

theorem Padded.foldlM_eq {arguments others : List String} (hpadded : Padded arguments others)
    (attrs : XClientAttributes) : others.foldlM add attrs = arguments.foldlM add attrs := by
  induction hpadded generalizing attrs with
  | nil => rfl
  | keep argument _ ih =>
      rw [List.foldlM_cons, List.foldlM_cons]
      cases add attrs argument with
      | error e => rfl
      | ok next => exact ih next
  | insert hidle _ ih =>
      rw [List.foldlM_cons, add_of_isIdle hidle]
      exact ih attrs

theorem Padded.ne_nil {arguments others : List String} (hpadded : Padded arguments others)
    (hne : arguments ≠ []) : others ≠ [] := by
  cases hpadded with
  | nil => exact hne
  | keep argument _ => exact List.cons_ne_nil argument _
  | insert _ _ => exact List.cons_ne_nil _ _

/-- A list that is written in two parts is read part by part: the error is that of the first part
that has one, and each attribute is what the later part sets, or else what the earlier one does.  So
arguments that name different attributes, in whatever case, can be read in one order exactly if they
can in another, and set the same; and arguments that set nothing can be put in anywhere. -/
theorem parse_combines :
    (∀ first second : List String, first ≠ [] → second ≠ [] →
      parse (first ++ second) = do
        let earlier ← parse first
        let later ← parse second
        return earlier.merge later) ∧
    (∀ arguments others : List String, arguments.Perm others →
      (arguments.filterMap key?).Nodup → ∀ attrs,
        parse arguments = .ok attrs ↔ parse others = .ok attrs) ∧
    ∀ arguments padded : List String, Padded arguments padded → arguments ≠ [] →
      parse padded = parse arguments := by
  refine ⟨?_, ?_, ?_⟩
  · intro first second hfirst hsecond
    rw [parse_of_ne_nil hfirst, parse_of_ne_nil hsecond,
      parse_of_ne_nil (List.append_ne_nil_of_left_ne_nil hfirst second), collect_append]
  · intro arguments others hperm hkeys attrs
    by_cases hne : arguments = []
    · subst hne
      rw [List.nil_perm.mp hperm]
    · have hother : others ≠ [] := fun hnil => hne (List.perm_nil.mp (hnil ▸ hperm))
      rw [parse_of_ne_nil hne, parse_of_ne_nil hother]
      exact collect_perm hperm hkeys attrs
  · intro arguments padded hpadded hne
    rw [parse_of_ne_nil hne, parse_of_ne_nil (hpadded.ne_nil hne)]
    exact hpadded.foldlM_eq {}

theorem parse_combines_repeated :
    let address := Address.Ip.v4 ⟨192, 0, 2, 2⟩
    let first := ["ADDR=192.0.2.2", "HELO=a"]
    let second := ["helo=b+2Bc", "Port=25"]
    parse (first ++ second) =
        .ok { addr := some address, port := some 25, helo := some "b+c" } ∧
      parse second.reverse = .ok { port := some 25, helo := some "b+c" } ∧
      parse ["name=mx", "ADDR=192.0.2.2", "login=[TEMPUNAVAIL]", "HELO=a"] = parse first := by
  intro address first second
  obtain ⟨happend, hperm, hpadded⟩ := parse_combines
  have hsecond : parse second = .ok { port := some 25, helo := some "b+c" } := by decide +kernel
  have hfirst : parse first = .ok { addr := some address, helo := some "a" } := by decide +kernel
  have hname : IsIdle "name=mx" :=
    ⟨"name", "mx", "mx", by decide, by decide, by decide +kernel, .inl (by decide)⟩
  have hlogin : IsIdle "login=[TEMPUNAVAIL]" :=
    ⟨"login", "[TEMPUNAVAIL]", "[TEMPUNAVAIL]", by decide, by decide, by decide +kernel,
      .inr ⟨by decide, .inr rfl⟩⟩
  refine ⟨?_, ?_, ?_⟩
  · rw [happend first second (by decide) (by decide), hfirst, hsecond]
    rfl
  · exact (hperm second _ second.reverse_perm.symm (by decide) _).mp hsecond
  · exact hpadded first _ (.insert hname (.keep _ (.insert hlogin (.keep _ .nil)))) (by decide)

end XClientAttributes
end MailIntake
