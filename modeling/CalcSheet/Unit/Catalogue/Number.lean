import CalcSheet.Unit.Catalogue.Entry

/-!
# Dimensionless units

Ratios, angles, percentages and mathematical constants.
-/
namespace CalcSheet.Catalogue

def number : List Entry :=
  block ⟨0, 0, 0, 0, 0, 0, 0, 0⟩ [
    ("%", 1, -2, ["percent"]),
    ("AU", 1, 0, ["absorbance_unit", "AU"]),
    ("B", 8, 0, ["byte", "B", "octet", "bytes"]),
    ("KiB", 8192, 0, ["KiB"]),
    ("MB", 8, 6, ["MB"]),
    ("RIU", 1, 0, ["refractive_index_unit", "RIU"]),
    ("arcmin", 29088820866572159615394846149621748400021402834673, -53,
      ["arcmin", "arc_minute", "angular_minute"]),
    ("arcmin", 2908882086657215961539484615, -31, ["arcminute"]),
    ("arcsec", 4848136811095359935899141025, -33, ["arcsecond"]),
    ("arcsec", 48481368110953599358991410259065854288893057929587, -55,
      ["arcsec", "arc_second", "angular_second"]),
    ("avogadro_number", 602214076, 15, ["avogadro_number"]),
    ("bit", 1, 0, ["bit"]),
    ("count", 1, 0, ["count"]),
    ("deg", 1745329251994329576923690768, -29, ["degree"]),
    ("deg", 17453292519943295769236907686282390536024182546956, -51,
      ["deg", "arcdeg", "arcdegree", "angular_degree"]),
    ("eulers_number", 2718281828459045235360287471, -27, ["eulers_number"]),
    ("g_e", -200231930436092, -14, ["electron_g_factor", "g_e"]),
    ("grad", 15707963267948966192313216916397514420985846996876, -51, ["grad", "gon", "gradian"]),
    ("grad", 1570796326794896619231321692, -29, ["grade"]),
    ("marcsec", 4848136811095359935899141025, -36, ["milliarcsecond"]),
    ("mas", 48481368110953599358991410259065854288893057929587, -58, ["mas"]),
    ("mil", 9817477042468103870195760572, -32, ["mil"]),
    ("ppm", 1, -6, ["ppm"]),
    ("rad", 1, 0, ["radian", "rad"]),
    ("sq_deg", 30461741978670859934674354946906030981593054192641, -53, ["sq_deg", "sqdeg"]),
    ("sq_deg", 3046174197867085993467435495, -31, ["square_degree"]),
    ("sr", 1, 0, ["steradian", "sr"]),
    ("tansec", 4848136811133344167539642948, -33, ["tansec"]),
    ("turn", 6283185307179586476925286766, -27, ["turn"]),
    ("turn", 62831853071795864769252867665590057683943387987502, -49,
      ["revolution", "cycle", "circle"]),
    ("wien_u", 2821439372122078893403191330, -27, ["wien_u"]),
    ("wien_x", 4965114231744276303698759131, -27, ["wien_x"]),
    ("α", 72973525643394025515680968068226349977838117555330, -52, ["α", "alpha"]),
    ("α", 7297352564339402551568096810, -30, ["fine_structure_constant"]),
    ("ε", 1, 0, ["strain", "ε", "ϵ"]),
    ("ζ", 299792458, 2, ["zeta", "ζ"]),
    ("π", 3141592653589793238462643383, -27, ["pi"]),
    ("π", 31415926535897932384626433832795028841971693993751, -49, ["π"]),
    ("‰", 1, -3, ["permille"])]

end CalcSheet.Catalogue
