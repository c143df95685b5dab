import Polyglot.Calendar.Week

/-!
# Languages and territories

Which territories a language has locales for, which one it is likely spoken in when none is
named, other codes for languages and territories, and how a territory counts weeks.
-/
namespace Polyglot.Territory

def known : List (String × List String) := [
  ("en", [
    "001", "150", "AE", "AG", "AI", "AS", "AT", "AU", "BB", "BE", "BI", "BM", "BS", "BW", "BZ",
    "CA", "CC", "CH", "CK", "CM", "CX", "CY", "CZ", "DE", "DG", "DK", "DM", "EE", "ER", "ES",
    "FI", "FJ", "FK", "FM", "FR", "GB", "GD", "GE", "GG", "GH", "GI", "GM", "GS", "GU", "GY",
    "HK", "HU", "ID", "IE", "IL", "IM", "IN", "IO", "IT", "JE", "JM", "JP", "KE", "KI", "KN",
    "KY", "LC", "LR", "LS", "LT", "LV", "MG", "MH", "MO", "MP", "MS", "MT", "MU", "MV", "MW",
    "MY", "NA", "NF", "NG", "NL", "NO", "NR", "NU", "NZ", "PG", "PH", "PK", "PL", "PN", "PR",
    "PT", "PW", "RO", "RW", "SB", "SC", "SD", "SE", "SG", "SH", "SI", "SK", "SL", "SS", "SX",
    "SZ", "TC", "TK", "TO", "TT", "TV", "TZ", "UA", "UG", "UM", "US", "VC", "VG", "VI", "VU",
    "WS", "ZA", "ZM", "ZW"]),
  ("de", ["AT", "BE", "CH", "DE", "IT", "LI", "LU"]),
  ("fr", [
    "BE", "BF", "BI", "BJ", "BL", "CA", "CD", "CF", "CG", "CH", "CI", "CM", "DJ", "DZ", "FR",
    "GA", "GF", "GN", "GP", "GQ", "HT", "KM", "LU", "MA", "MC", "MF", "MG", "ML", "MQ", "MR",
    "MU", "NC", "NE", "PF", "PM", "RE", "RW", "SC", "SN", "SY", "TD", "TG", "TN", "VU", "WF",
    "YT"]),
  ("ru", ["BY", "KG", "KZ", "MD", "RU", "UA"]),
  ("pl", ["PL"]),
  ("pt", ["AO", "BR", "CH", "CV", "GQ", "GW", "LU", "MO", "MZ", "PT", "ST", "TL"]),
  ("ja", ["JP"]),
  ("uk", ["UA"]),
  ("es", [
    "419", "AR", "BO", "BR", "BZ", "CL", "CO", "CR", "CU", "DO", "EA", "EC", "ES", "GQ", "GT",
    "HN", "IC", "MX", "NI", "PA", "PE", "PH", "PR", "PY", "SV", "US", "UY", "VE"]),
  ("hi", ["IN"]),
  ("ar", [
    "001", "AE", "BH", "DJ", "DZ", "EG", "EH", "ER", "IL", "IQ", "JO", "KM", "KW", "LB", "LY",
    "MA", "MR", "OM", "PS", "QA", "SA", "SD", "SO", "SS", "SY", "TD", "TN", "YE"]),
  ("cy", ["GB"])]

/-- The territory that a language is most likely spoken in. -/
def likely : List (String × String) := [
  ("en", "US"), ("de", "DE"), ("fr", "FR"), ("ru", "RU"), ("pl", "PL"), ("pt", "BR"),
  ("ja", "JP"), ("uk", "UA"), ("es", "ES"), ("hi", "IN"), ("ar", "EG"), ("cy", "GB")]

def languageAliases : List (String × String) := [
  ("eng", "en"), ("deu", "de"), ("ger", "de"), ("fra", "fr"), ("fre", "fr"), ("rus", "ru"),
  ("pol", "pl"), ("por", "pt"), ("jpn", "ja"), ("ukr", "uk"), ("spa", "es"), ("hin", "hi"),
  ("ara", "ar"), ("arb", "ar"), ("cym", "cy"), ("wel", "cy"), ("und", "en")]

/-- Other codes for territories: numbers, and codes out of use. -/
def aliases : List (String × String) := [
  ("UK", "GB"), ("DD", "DE"), ("FX", "FR"), ("SU", "RU"), ("AN", "CW"), ("BU", "MM"),
  ("TP", "TL"), ("YU", "RS"), ("CS", "RS"), ("ZR", "CD"), ("YD", "YE"), ("DY", "BJ"),
  ("HV", "BF"), ("NH", "VU"), ("RH", "ZW"), ("VD", "VN"), ("PZ", "PA"), ("NT", "SA"),
  ("PC", "FM"), ("QU", "EU"), ("CT", "KI"), ("FQ", "AQ"), ("NQ", "AQ"), ("JT", "UM"),
  ("MI", "UM"), ("PU", "UM"), ("WK", "UM"), ("840", "US"), ("826", "GB"), ("276", "DE"),
  ("278", "DE"), ("280", "DE"), ("040", "AT"), ("756", "CH"), ("438", "LI"), ("442", "LU"),
  ("056", "BE"), ("250", "FR"), ("249", "FR"), ("124", "CA"), ("643", "RU"), ("810", "RU"),
  ("804", "UA"), ("112", "BY"), ("398", "KZ"), ("417", "KG"), ("498", "MD"), ("616", "PL"),
  ("076", "BR"), ("620", "PT"), ("392", "JP"), ("724", "ES"), ("484", "MX"), ("032", "AR"),
  ("170", "CO"), ("152", "CL"), ("604", "PE"), ("862", "VE"), ("858", "UY"), ("600", "PY"),
  ("068", "BO"), ("218", "EC"), ("356", "IN"), ("818", "EG"), ("682", "SA"), ("784", "AE"),
  ("036", "AU"), ("554", "NZ"), ("372", "IE"), ("710", "ZA"), ("702", "SG"), ("344", "HK"),
  ("608", "PH"), ("586", "PK"), ("566", "NG"), ("404", "KE"), ("470", "MT"), ("528", "NL"),
  ("380", "IT"), ("752", "SE"), ("208", "DK"), ("578", "NO"), ("246", "FI")]

/-- The territories whose weeks start with Sunday. -/
def sundayFirst : List String := [
  "AG", "AS", "BD", "BR", "BS", "BT", "BW", "BZ", "CA", "CO", "DM", "DO", "ET", "GT", "GU", "HK",
  "HN", "ID", "IL", "IN", "JM", "JP", "KE", "KH", "KR", "LA", "MH", "MM", "MO", "MT", "MX", "MZ",
  "NI", "NP", "PA", "PE", "PH", "PK", "PR", "PT", "PY", "SA", "SG", "SV", "TH", "TT", "TW", "UM",
  "US", "VE", "VI", "WS", "YE", "ZA", "ZW"]

/-- The territories whose weeks start with Saturday. -/
def saturdayFirst : List String := [
  "AF", "BH", "DJ", "DZ", "EG", "IQ", "IR", "JO", "KW", "LY", "OM", "QA", "SD", "SY"]

/-- The territories whose first week has at least four days of its year. -/
def fourDayWeeks : List String := [
  "AD", "AN", "AT", "AX", "BE", "BG", "CH", "CZ", "DE", "DK", "EE", "ES", "FI", "FJ", "FO", "FR",
  "GB", "GF", "GG", "GI", "GP", "GR", "HU", "IE", "IM", "IS", "IT", "JE", "LI", "LT", "LU", "MC",
  "MQ", "NL", "NO", "PL", "PT", "RE", "RU", "SE", "SJ", "SK", "SM", "VA"]

/-- How weeks are counted in a territory; where none is named, as in most of the world. -/
def weekRule (territory : Option String) : WeekRule :=
  match territory with
  | none => .common
  | some t =>
      ⟨if sundayFirst.contains t then 6
        else if saturdayFirst.contains t then 5
        else if t = "MV" then 4
        else 0,
        if fourDayWeeks.contains t then 4 else 1⟩

end Polyglot.Territory
