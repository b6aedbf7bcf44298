import CalcSheet.Unit.Catalogue.Entry

/-!
# Units of time and motion

Everything made of lengths and times, with a power of the time.
-/
namespace CalcSheet.Catalogue

def motion : List Entry :=
  block ⟨-1, 0, 1, 0, 0, 0, 0, 0⟩ [
    ("statΩ", 1, 2, ["statohm", "statΩ"])] ++
  block ⟨-1, 0, 2, 0, 0, 0, 0, 0⟩ [
    ("statH", 1, 2, ["stathenry", "statH"])] ++
  block ⟨0, 0, -1, 0, 0, 0, 0, 0⟩ [
    ("Bd", 1, 0, ["baud", "Bd", "bps"]),
    ("Bq", 1, 0, ["becquerel", "Bq"]),
    ("Ci", 37, 9, ["curie", "Ci"]),
    ("Hz", 1, 0, ["hertz", "Hz"]),
    ("Rd", 1, 6, ["rutherford", "Rd"]),
    ("cps", 1, 0, ["counts_per_second", "cps"]),
    ("rpm", 1047197551196597746154214461, -28, ["revolutions_per_minute"]),
    ("rpm", 10471975511965977461542144610931676280657231331251, -50, ["rpm"]),
    ("rps", 6283185307179586476925286766, -27, ["revolutions_per_second"]),
    ("rps", 62831853071795864769252867665590057683943387987502, -49, ["rps"])] ++
  block ⟨0, 0, 1, 0, 0, 0, 0, 0⟩ [
    ("a", 3155760000, -2, ["year", "yr", "julian_year"]),
    ("a_u_time", 24188843265863416464090451736661941979309809728629, -66, ["a_u_time"]),
    ("a_u_time", 2418884326586341646409045174, -44, ["atomic_unit_of_time"]),
    ("cd", 86400, -2, ["centiday"]),
    ("century", 315576000000, -2, ["century", "centuries"]),
    ("common_year", 31536000, 0, ["common_year"]),
    ("d", 86400, 0, ["day", "d"]),
    ("eon", 3155760000, 7, ["eon"]),
    ("fortnight", 1209600, 0, ["fortnight"]),
    ("gregorian_year", 315569520000, -4, ["gregorian_year"]),
    ("h", 3600, 0, ["hour", "h", "hr", "hrs"]),
    ("ks", 1, 3, ["ks"]),
    ("leap_year", 31622400, 0, ["leap_year"]),
    ("millennium", 3155760000, 1, ["millennium", "millennia"]),
    ("min", 60, 0, ["minute", "min", "mins"]),
    ("month", 2629800000000000000000000000, -21, ["month"]),
    ("ms", 1, -3, ["ms"]),
    ("planck_time", 5391246448313603961644851311, -71, ["planck_time"]),
    ("s", 1, 0, ["second", "s", "sec", "secs"]),
    ("shake", 1, -8, ["shake"]),
    ("sidereal_day", 8616409053083286510399075547, -23, ["sidereal_day"]),
    ("sidereal_month", 236059155792000, -8, ["sidereal_month"]),
    ("sidereal_year", 31558149763545600, -9, ["sidereal_year"]),
    ("svedberg", 1, -13, ["svedberg"]),
    ("synodic_month", 2551442889600, -6, ["synodic_month", "lunar_month"]),
    ("tropical_month", 2360584684800, -6, ["tropical_month"]),
    ("tropical_year", 31556925250732800, -9, ["tropical_year"]),
    ("week", 604800, 0, ["week"])] ++
  block ⟨1, 0, -1, 0, 0, 0, 0, 0⟩ [
    ("LMH", 2777777777777777777777777778, -34, ["LMH"]),
    ("c", 299792458, 0, ["speed_of_light", "c"]),
    ("fps", 30479999999999999999999999996952, -32, ["fps"]),
    ("fps", 3048000000000000000000000000, -28, ["foot_per_second"]),
    ("kmps", 1, 3, ["kilometer_per_second"]),
    ("kn", 51444444444444444444444444444444444444444444444445, -50,
      ["kn", "kt", "knot_international", "international_knot"]),
    ("kn", 5144444444444444444444444445, -28, ["knot"]),
    ("kph", 27777777777777777777777777777777777777777777777778, -50, ["kph", "KPH"]),
    ("kph", 2777777777777777777777777778, -28, ["kilometer_per_hour"]),
    ("kps", 1, 3, ["kps"]),
    ("mph", 4470400000000000000000000000, -28, ["mile_per_hour"]),
    ("mph", 44704000000000000000000000000000000000000000000000, -50, ["mph", "MPH"]),
    ("mps", 1, 0, ["meter_per_second", "mps"]),
    ("statmho", 1, -2, ["statmho"])] ++
  block ⟨1, 0, -2, 0, 0, 0, 0, 0⟩ [
    ("Gal", 1, -2, ["galileo", "Gal"]),
    ("g_0", 980665, -5, ["standard_gravity", "g_n", "gravity"]),
    ("meter_per_second_squared", 1, 0, ["meter_per_second_squared"])] ++
  block ⟨2, 0, -1, 0, 0, 0, 0, 0⟩ [
    ("St", 1, -4, ["stokes", "St"])] ++
  block ⟨2, 0, -2, 0, 0, 0, 0, 0⟩ [
    ("Gy", 1, 0, ["gray", "Gy"]),
    ("RKM", 980665, -2, ["RKM"]),
    ("Sv", 1, 0, ["sievert", "Sv"]),
    ("rads", 1, -2, ["rads"]),
    ("rem", 1, -2, ["rem"])] ++
  block ⟨3, 0, -1, 0, 0, 0, 0, 0⟩ [
    ("sv", 1, 6, ["sverdrup", "sv"])]

end CalcSheet.Catalogue
