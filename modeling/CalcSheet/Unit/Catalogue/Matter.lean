import CalcSheet.Unit.Catalogue.Entry

/-!
# Units of temperature, substance and light

Temperatures here are absolute or differences; scales with another zero are listed elsewhere.
-/
namespace CalcSheet.Catalogue

def matter : List Entry :=
  block ⟨-2, 0, 0, 0, 0, 0, 1, 0⟩ [
    ("lambert", 3183098861837906715377675267, -24, ["lambert"]),
    ("lx", 1, 0, ["lux", "lx"]),
    ("nit", 1, 0, ["nit"]),
    ("stilb", 1, 4, ["stilb"])] ++
  block ⟨-3, 0, 0, 0, 0, 1, 0, 0⟩ [
    ("M", 1, 3, ["molar", "M"]),
    ("kM", 1, 6, ["kM"])] ++
  block ⟨0, 0, -1, 0, -1, 0, 0, 0⟩ [
    ("wien_frequency_displacement_law_constant", 5878925757646824946606130795, -17,
      ["wien_frequency_displacement_law_constant"])] ++
  block ⟨0, 0, -1, 0, 0, 1, 0, 0⟩ [
    ("U", 16666666666666666666666666666666666666666666666667, -57, ["U", "enzymeunit"]),
    ("U", 1666666666666666666666666667, -35, ["enzyme_unit"]),
    ("kat", 1, 0, ["katal", "kat"])] ++
  block ⟨0, 0, 0, 0, 0, -1, 0, 0⟩ [
    ("N_A", 602214076, 15, ["avogadro_constant", "N_A"])] ++
  block ⟨0, 0, 0, 0, 0, 0, 1, 0⟩ [
    ("cd", 1, 0, ["candela", "cd", "candle"]),
    ("lm", 1, 0, ["lumen", "lm"])] ++
  block ⟨0, 0, 0, 0, 0, 1, 0, 0⟩ [
    ("mol", 1, 0, ["mole", "mol"]),
    ("particle", 16605390671738466637900373487782773114722080989684, -73, ["molec", "molecule"]),
    ("particle", 1660539067173846663790037349, -51, ["particle"]),
    ("µmol", 1, -6, ["micromole"])] ++
  block ⟨0, 0, 0, 0, 1, 0, 0, 0⟩ [
    ("K", 1, 0, ["kelvin", "K", "degK", "degree_Kelvin", "degreeK"]),
    ("a_u_temp", 3157750248039855075713462785, -22, ["atomic_unit_of_temperature"]),
    ("a_u_temp", 31577502480398550757134627853857135303759318986940, -44, ["a_u_temp"]),
    ("mK", 1, -3, ["mK"]),
    ("planck_temperature", 1416784162157342546194592688, 5, ["planck_temperature"]),
    ("°R", 5555555555555555555555555556, -28, ["degree_Rankine", "rankine", "degR", "degreeR"]),
    ("Δ°C", 1, 0,
      ["delta_degree_Celsius", "Δcelsius", "ΔdegC", "ΔdegreeC", "delta_celsius", "delta_degC",
       "delta_degreeC"]),
    ("Δ°F", 5555555555555555555555555556, -28,
      ["delta_degree_Fahrenheit", "Δfahrenheit", "ΔdegF", "ΔdegreeF", "delta_fahrenheit",
       "delta_degF", "delta_degreeF"]),
    ("Δ°Re", 125, -2,
      ["delta_degree_Reaumur", "Δreaumur", "ΔdegRe", "ΔdegreeRe", "Δdegree_Réaumur", "Δréaumur",
       "delta_reaumur", "delta_degRe", "delta_degreeRe", "delta_degree_Réaumur",
       "delta_réaumur"])] ++
  block ⟨0, 0, 1, 1, 0, -1, 0, 0⟩ [
    ("faraday_constant", 964853321233100184, -13, ["faraday_constant"])] ++
  block ⟨0, 1, -3, 0, -4, 0, 0, 0⟩ [
    ("σ", 5670374419184429453970996729, -35, ["stefan_boltzmann_constant"]),
    ("σ", 56703744191844294539709967304716372710440156067987, -57, ["σ", "sigma"])] ++
  block ⟨1, 0, 0, 0, 1, 0, 0, 0⟩ [
    ("c_2", 1438776877503933802146671602, -29, ["second_radiation_constant"]),
    ("wien_wavelength_displacement_law_constant", 2897771955185172661478605450, -30,
      ["wien_wavelength_displacement_law_constant"])] ++
  block ⟨2, 1, -2, 0, -1, -1, 0, 0⟩ [
    ("R", 831446261815324, -14, ["molar_gas_constant", "R"]),
    ("eu", 4184, -3, ["entropy_unit", "eu"])] ++
  block ⟨2, 1, -2, 0, -1, 0, 0, 0⟩ [
    ("Cl", 4184, -3, ["clausius", "Cl"]),
    ("k", 1380649, -29, ["boltzmann_constant", "k", "k_B"])]

end CalcSheet.Catalogue
