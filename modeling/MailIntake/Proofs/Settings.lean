import MailIntake.Settings
import MailIntake.Proofs.Duration
import Mathlib.Data.List.Nodup
/-!
Written settings.  The value of every setting is read as it was written, whatever stands around it
(`read_eq_ok`), so that a table of settings is read as them in any order of its entries
(`ofValue_of_perm`).  A timeout may be given in seconds or as a text; what is read is the same.
-/
namespace MailIntake

namespace Value

variable {entries : List (String × Value)} {key other : String} {v w : Value}

/-- Where no key stands twice, each has the value that stands with it. -/
theorem lookup_eq_some (hkeys : (entries.map Prod.fst).Nodup) (hentry : (key, v) ∈ entries) :
    lookup entries key = some v := by
  have hreverse : (entries.reverse.map Prod.fst).Nodup := by
    rw [List.map_reverse]
    exact List.nodup_reverse.mpr hkeys
  have hmem : (key, v) ∈ entries.reverse := List.mem_reverse.mpr hentry
  rw [lookup]
  generalize entries.reverse = found at hreverse hmem
  induction found with
  | nil => cases hmem
  | cons first rest ih =>
      rw [List.map_cons, List.nodup_cons] at hreverse
      rcases List.mem_cons.mp hmem with rfl | hrest
      · rw [List.find?_cons_of_pos (by simp)]
        rfl
      · have hne : first.1 ≠ key := by
          rintro rfl
          exact hreverse.1 (List.mem_map.mpr ⟨_, hrest, rfl⟩)
        rw [List.find?_cons_of_neg (by simpa using hne)]
        exact ih hreverse.2 hrest

/-- The last entry of a key counts. -/
theorem lookup_append_cons (before behind : List (String × Value)) (key other : String)
    (v : Value) :
    lookup (before ++ (key, v) :: behind) other =
      ((lookup behind other).or (if key = other then some v else none)).or
        (lookup before other) := by
  rw [lookup, List.reverse_append, List.reverse_cons, List.append_assoc, List.singleton_append,
    List.find?_append, Option.map_or, Option.or_assoc]
  apply congrArg
  by_cases hkey : key = other
  · rw [if_pos hkey, List.find?_cons_of_pos (by simpa using hkey)]
    rfl
  · rw [if_neg hkey, List.find?_cons_of_neg (by simpa using hkey)]
    rfl

end Value

namespace Settings

variable {A : Type} {entries : List (String × Value)} {key : String} {v w : Value}

theorem read_eq_ok {reader : Value → Option A} {a : A} (default : A)
    (hlookup : Value.lookup entries key = some v) (hreader : reader v = some a) :
    read entries key reader default = .ok a := by
  simp only [read, hlookup, hreader]

/-- Values that are read alike can stand for each other. -/
theorem read_replace {other : String} {reader : Value → Option A} (default : A)
    (before behind : List (String × Value)) (hsame : key = other → reader v = reader w) :
    read (before ++ (key, v) :: behind) other reader default =
      read (before ++ (key, w) :: behind) other reader default := by
  rw [read, read, Value.lookup_append_cons, Value.lookup_append_cons]
  by_cases hkey : key = other
  · rw [if_pos hkey, if_pos hkey]
    cases Value.lookup behind other with
    | some found => rfl
    | none => simp only [Option.none_or, Option.some_or, hsame hkey]
  · rw [if_neg hkey, if_neg hkey]

theorem text?_text (text : String) : text? (.text text) = some text := rfl

theorem bool?_bool (b : Bool) : bool? (.bool b) = some b := rfl

theorem optionalText?_toValue (text : Option String) :
    optionalText? (match text with | some text => .text text | none => .null) = some text := by
  cases text with
  | none => rfl
  | some text => rfl

theorem size?_toNat (n : UInt64) : size? (.integer n.toNat) = some n := by
  have hn := n.toNat_lt
  rw [size?, Int.toNat_natCast, if_pos ⟨Int.natCast_nonneg _, hn⟩, UInt64.ofNat_toNat]

theorem count?_toInt (n : Int64) : count? (.integer n.toInt) = some n := by
  have hleast := n.minValue_le_toInt
  have hmost := n.toInt_le
  rw [count?, if_pos ⟨hleast, hmost⟩, Int64.ofInt_toInt]

theorem duration?_integer (n : UInt64) : duration? (.integer n.toNat) = some (.ofSeconds n) := by
  show (size? (.integer n.toNat)).map Duration.ofSeconds = _
  rw [size?_toNat]
  rfl

theorem duration?_text (d : Duration) : duration? (.text d.render) = some d :=
  d.parse?_render

/-- Written settings are read as they were, in any order of the entries. -/
theorem ofValue_of_perm {s : Settings} {written : List (String × Value)}
    (hwritten : s.toValue = .table written) (hperm : entries.Perm written) :
    ofValue (.table entries) = .ok s := by
  have hkeys : (written.map Prod.fst).Nodup := by
    cases hwritten
    show keys.Nodup
    decide
  have hlookup : ∀ entry ∈ written, Value.lookup entries entry.1 = some entry.2 := by
    intro entry hentry
    apply Value.lookup_eq_some
    · exact (hperm.map Prod.fst).nodup_iff.mpr hkeys
    · exact hperm.mem_iff.mpr hentry
  cases hwritten
  simp only [List.forall_mem_cons] at hlookup
  obtain ⟨hhostname, hbanner, hsize, hrecipients, hconnections, hread, hwrite, hdata, hdns, htls,
    himplicit, hxclient, hproxy, hreverse, -⟩ := hlookup
  rw [ofValue, ofEntries]
  simp only [read_eq_ok _ hhostname (optionalText?_toValue _), read_eq_ok _ hbanner (text?_text _),
    read_eq_ok _ hsize (size?_toNat _), read_eq_ok _ hrecipients (size?_toNat _),
    read_eq_ok _ hconnections (count?_toInt _), read_eq_ok _ hread (duration?_text _),
    read_eq_ok _ hwrite (duration?_text _), read_eq_ok _ hdata (duration?_text _),
    read_eq_ok _ hdns (duration?_text _), read_eq_ok _ htls (bool?_bool _),
    read_eq_ok _ himplicit (bool?_bool _), read_eq_ok _ hxclient (bool?_bool _),
    read_eq_ok _ hproxy (bool?_bool _), read_eq_ok _ hreverse (bool?_bool _), bind, Except.bind,
    pure, Except.pure]

/-- The settings that are spans of time. -/
def timeoutKeys : List String :=
  ["read_timeout", "write_timeout", "data_timeout", "dns_timeout"]

/-- A timeout may be given in any form that is read as its span. -/
theorem ofEntries_replace (hkey : key ∈ timeoutKeys) (hsame : duration? v = duration? w)
    (before behind : List (String × Value)) :
    ofEntries (before ++ (key, v) :: behind) = ofEntries (before ++ (key, w) :: behind) := by
  have htimeout : ∀ other default, read (before ++ (key, v) :: behind) other duration? default =
      read (before ++ (key, w) :: behind) other duration? default := fun other default =>
    read_replace default before behind fun _ => hsame
  have hothers : ∀ {A : Type} (other : String) (reader : Value → Option A) (default : A),
      other ∉ timeoutKeys → read (before ++ (key, v) :: behind) other reader default =
        read (before ++ (key, w) :: behind) other reader default := by
    intro A other reader default hother
    apply read_replace
    rintro rfl
    exact absurd hkey hother
  rw [ofEntries, ofEntries]
  simp only [htimeout, hothers "hostname" _ _ (by decide), hothers "banner" _ _ (by decide),
    hothers "max_message_size" _ _ (by decide), hothers "max_recipients" _ _ (by decide),
    hothers "max_connections" _ _ (by decide), hothers "require_tls" _ _ (by decide),
    hothers "implicit_tls" _ _ (by decide), hothers "enable_xclient" _ _ (by decide),
    hothers "enable_proxy_protocol" _ _ (by decide), hothers "skip_reverse_dns" _ _ (by decide)]

/-- What is written for settings is read as those settings, and so is the same table with its
entries in another order.  A number of seconds and the text that is written for as many seconds are
the same span, and wherever they stand as a timeout the same settings are read. -/
theorem settings_read_back :
    (∀ s : Settings, ofValue s.toValue = .ok s) ∧
    (∀ (s : Settings) (written entries : List (String × Value)), s.toValue = .table written →
      entries.Perm written → ofValue (.table entries) = .ok s) ∧
    (∀ n : UInt64, duration? (.integer n.toNat) = some (.ofSeconds n) ∧
      duration? (.text (Duration.ofSeconds n).render) = some (.ofSeconds n)) ∧
    ∀ (n : UInt64) (key : String) (before behind : List (String × Value)), key ∈ timeoutKeys →
      ofValue (.table (before ++ (key, .integer n.toNat) :: behind)) =
        ofValue (.table (before ++ (key, .text (Duration.ofSeconds n).render) :: behind)) := by
  refine ⟨?_, ?_, ?_, ?_⟩
  · intro s
    exact ofValue_of_perm rfl (List.Perm.refl _)
  · intro s written entries hwritten hperm
    exact ofValue_of_perm hwritten hperm
  · intro n
    exact ⟨duration?_integer n, duration?_text (.ofSeconds n)⟩
  · intro n key before behind hkey
    have hsame := (duration?_integer n).trans (duration?_text (.ofSeconds n)).symm
    exact ofEntries_replace hkey hsame before behind

theorem settings_read_back_longest :
    let longest : Duration := ⟨18446744073709551615, 999999999⟩
    let s : Settings :=
      { hostname := some "", maxMessageSize := 18446744073709551615,
        maxConnections := -9223372036854775808, readTimeout := longest }
    longest.render = "584542046090years 7months 15days 17h 5m 3s 999ms 999us 999ns" ∧
      ofValue s.toValue = .ok s ∧
      (∃ written, s.toValue = .table written ∧ ofValue (.table written.reverse) = .ok s) ∧
      ofValue (.table [("banner", .text ""), ("dns_timeout", .integer 90)]) =
        ofValue (.table [("banner", .text ""), ("dns_timeout", .text "1m 30s")]) := by
  intro longest s
  obtain ⟨hwhole, horder, -, htimeout⟩ := settings_read_back
  have hseconds := htimeout 90 "dns_timeout" [("banner", .text "")] [] (by decide)
  have hninety : (Duration.ofSeconds 90).render = "1m 30s" := by decide +kernel
  rw [hninety] at hseconds
  exact ⟨by decide +kernel, hwhole s, ⟨_, rfl, horder s _ _ rfl (List.reverse_perm _)⟩, hseconds⟩

end Settings
end MailIntake
