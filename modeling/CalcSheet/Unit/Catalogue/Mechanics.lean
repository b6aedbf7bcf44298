import CalcSheet.Unit.Catalogue.Entry

/-!
# Units of mass, force, energy and pressure

Everything with a power of the mass and none of the current.
-/
namespace CalcSheet.Catalogue

def mechanics : List Entry :=
  block ⟨-1, 1, -1, 0, 0, 0, 0, 0⟩ [
    ("P", 1, -1, ["poise", "P"]),
    ("cP", 1, -3, ["centipoise"]),
    ("reyn", 6894757293168361336722673443, -24, ["reyn"])] ++
  block ⟨-1, 1, -2, 0, 0, 0, 0, 0⟩ [
    ("Ba", 1, -1, ["barye", "Ba", "barie", "barad", "barrie", "baryd"]),
    ("Pa", 1, 0, ["pascal", "Pa"]),
    ("SPL", 20, -6, ["sound_pressure_level", "SPL"]),
    ("at", 980665, -1, ["technical_atmosphere"]),
    ("atm", 101325, 0, ["standard_atmosphere", "atm", "atmosphere"]),
    ("bar", 1, 5, ["bar"]),
    ("ftHg", 4063666368409199999999999999593633363159080, -38,
      ["ftHg", "ft_Hg", "feetHg", "feet_Hg"]),
    ("ftHg", 4063666368409200000000000000, -23, ["foot_Hg"]),
    ("inHg", 3386388640341000000000000000, -24, ["inch_Hg"]),
    ("inHg", 3386388640341000000000000000270911091227280, -39,
      ["inHg", "in_Hg", "inchesHg", "inches_Hg"]),
    ("ksi", 6894757293168361336722673443, -21, ["kip_per_square_inch"]),
    ("ksi", 68947572931683613367226734442437295268744497488997, -43, ["ksi"]),
    ("mHg", 133322387415, -6, ["meter_Hg", "mHg", "m_Hg"]),
    ("mmHg", 133322387415, -9, ["mmHg"]),
    ("psi", 6894757293168361336722673443, -24, ["pound_force_per_square_inch"]),
    ("psi", 68947572931683613367226734442437295268744497488997, -46, ["psi"]),
    ("torr", 1333223684210526315789473685, -25, ["torr"])] ++
  block ⟨-1, 1, 0, 0, 0, 0, 0, 0⟩ [
    ("Ta", 3444823943448041217070088460, -32, ["aberdeen"]),
    ("Ta", 34448239434480412170700884609441079177602799650044, -54, ["Ta"]),
    ("Tj", 3444823943448041217070088460, -32, ["jute"]),
    ("Tj", 34448239434480412170700884609441079177602799650044, -54, ["Tj"]),
    ("Tt", 1, -6, ["tex", "Tt"]),
    ("dTt", 1, -7, ["decitex"]),
    ("den", 1111111111111111111111111111, -34, ["denier", "den"]),
    ("dtex", 1, -7, ["dtex"])] ++
  block ⟨-3, 1, 0, 0, 0, 0, 0, 0⟩ [
    ("ρH2O", 1000000, -3, ["conventional_water_density"]),
    ("ρHg", 135951, -1, ["conventional_mercury_density", "ρHg"])] ++
  block ⟨0, 1, -2, 0, 0, 0, 0, 0⟩ [
    ("Ly", 4184, 1, ["langley", "Ly"]),
    ("PSH", 3600, 3, ["peak_sun_hour", "PSH"])] ++
  block ⟨0, 1, -3, 0, 0, 0, 0, 0⟩ [
    ("a_u_intensity", 3509445527729843630804778703, -7, ["atomic_unit_of_intensity"]),
    ("a_u_intensity", 35094455277298436308047787033897334749100198229434, -29,
      ["a_u_intensity"])] ++
  block ⟨0, 1, 0, 0, 0, 0, 0, 0⟩ [
    ("Da", 166053906892, -38, ["dalton", "Da"]),
    ("UK_cwt", 5080234544, -8, ["UK_hundredweight", "UK_cwt"]),
    ("UK_ton", 101604690880, -8, ["UK_ton"]),
    ("US_cwt", 4535923700, -8, ["US_hundredweight", "US_cwt"]),
    ("US_ton", 90718474, -5, ["US_ton"]),
    ("ap_dr", 388793460, -11, ["apothecary_dram", "ap_dr", "apothecary_drachm", "drachm"]),
    ("ap_lb", 37324172160, -11, ["apothecary_pound", "ap_lb"]),
    ("ap_oz", 3110347680, -11, ["apothecary_ounce", "ap_oz"]),
    ("bag", 4263768278, -8, ["bag"]),
    ("blob", 1751268352464763779527559054, -25, ["slinch"]),
    ("blob", 17512683524647637795275590549780087680232913385827, -47, ["blob", "slugette"]),
    ("ct", 200, -6, ["carat", "ct"]),
    ("cwt", 4535923700, -8, ["hundredweight", "cwt", "short_hundredweight"]),
    ("dr", 17718451953125, -16, ["dram", "dr", "avoirdupois_dram", "avdp_dram"]),
    ("dwt", 155517384, -11, ["pennyweight", "dwt"]),
    ("g", 1, -3, ["gram", "g"]),
    ("gamma_mass", 1, -9, ["gamma_mass"]),
    ("gr", 6479891, -11, ["grain", "gr"]),
    ("kg", 1, 0, ["kilogram", "kg"]),
    ("klb", 45359237, -5, ["klbs"]),
    ("lb", 45359237, -8, ["pound", "lb", "avoirdupois_pound", "avdp_pound", "lbs"]),
    ("long_hundredweight", 5080234544, -8, ["long_hundredweight"]),
    ("long_ton", 101604690880, -8, ["long_ton"]),
    ("m_e", 91093837139, -41, ["electron_mass", "m_e", "atomic_unit_of_mass", "a_u_mass"]),
    ("m_n", 167492750056, -38, ["neutron_mass", "m_n"]),
    ("m_p", 167262192595, -38, ["proton_mass", "m_p"]),
    ("m_u", 166053906892, -38, ["atomic_mass_constant", "m_u"]),
    ("mg", 1, -6, ["milligram", "milligrams"]),
    ("oz", 28349523125, -12, ["ounce", "oz", "avoirdupois_ounce", "avdp_ounce"]),
    ("planck_mass", 2176434342717898213927914920, -35, ["planck_mass"]),
    ("quarter", 1270058636, -8, ["quarter"]),
    ("scruple", 129597820, -11, ["scruple"]),
    ("slug", 1459390293720636482939632545, -26, ["slug"]),
    ("stone", 635029318, -8, ["stone"]),
    ("t", 1, 3, ["metric_ton", "t", "tonne"]),
    ("tlb", 37324172160, -11, ["troy_pound", "tlb", "lbt"]),
    ("ton", 90718474, -5, ["ton", "short_ton"]),
    ("toz", 3110347680, -11, ["troy_ounce", "toz", "ozt"]),
    ("u", 166053906892, -38, ["unified_atomic_mass_unit", "u", "amu"]),
    ("µg", 1, -9, ["microgram"])] ++
  block ⟨1, -1, 0, 0, 0, 0, 0, 0⟩ [
    ("Ne", 1693361817351557302429932849, -24, ["number_english"]),
    ("Ne", 16933618173515573024299328491790988459528100086868, -46, ["Ne", "NeC", "ECC"]),
    ("Nm", 1, 3, ["number_meter", "Nm"])] ++
  block ⟨1, -1, 1, 0, 0, 0, 0, 0⟩ [
    ("rhe", 1, 1, ["rhe"])] ++
  block ⟨1, 1, -2, 0, 0, 0, 0, 0⟩ [
    ("N", 1, 0, ["newton", "N"]),
    ("UK_force_ton", 99640164181835200, -13, ["UK_force_ton", "UK_ton_force"]),
    ("US_force_ton", 88964432305210, -10, ["US_force_ton", "US_ton_force"]),
    ("a_u_force", 82387235038430272073381409085609148604930488617446, -57, ["a_u_force"]),
    ("a_u_force", 8238723503843027207338140908, -35, ["atomic_unit_of_force"]),
    ("dyn", 1, -5, ["dyne", "dyn"]),
    ("force_long_ton", 99640164181835200, -13, ["force_long_ton", "long_ton_force"]),
    ("force_ton", 88964432305210, -10,
      ["force_ton", "ton_force", "force_short_ton", "short_ton_force"]),
    ("gf", 980665, -8, ["force_gram", "gf", "gram_force", "pond"]),
    ("kN", 1, 3, ["kN"]),
    ("kgf", 980665, -5, ["force_kilogram", "kgf", "kilogram_force"]),
    ("kip", 44482216152605, -10, ["kip"]),
    ("lbf", 44482216152605, -13, ["force_pound", "lbf", "pound_force"]),
    ("ozf", 27801385095378125, -17, ["force_ounce", "ozf", "ounce_force"]),
    ("pdl", 1382549543759999999999999999861745045624, -40, ["pdl"]),
    ("pdl", 1382549543760000000000000000, -28, ["poundal"]),
    ("tf", 980665, -2, ["force_metric_ton", "tf", "metric_ton_force", "force_t", "t_force"])] ++
  block ⟨2, 1, -1, 0, 0, 0, 0, 0⟩ [
    ("ħ", 10545718176461563912624280033022807447228263300204, -83,
      ["ħ", "hbar", "atomic_unit_of_action", "a_u_action"]),
    ("ħ", 1054571817646156391262428003, -61, ["dirac_constant"]),
    ("ℎ", 662607015, -42, ["planck_constant", "ℎ"])] ++
  block ⟨2, 1, -2, 0, 0, 0, 0, 0⟩ [
    ("Btu", 1055056, -3, ["british_thermal_unit", "Btu", "BTU", "Btu_iso"]),
    ("Btu_it", 1055055852620000000000000000, -24, ["international_british_thermal_unit"]),
    ("Btu_it", 10550558526200000000000000000844044682096, -37, ["Btu_it"]),
    ("Btu_th", 1054350264488888888888888888973236910048, -36, ["Btu_th"]),
    ("Btu_th", 1054350264488888888888888889, -24, ["thermochemical_british_thermal_unit"]),
    ("E_h", 4359744722205977870428716681180, -48,
      ["E_h", "Eh", "hartree_energy", "atomic_unit_of_energy", "a_u_energy"]),
    ("E_h", 4359744722205977870428716681, -45, ["hartree"]),
    ("J", 1, 0, ["joule", "J"]),
    ("Ry", 2179872361102988935214358340590, -48, ["Ry"]),
    ("Ry", 2179872361102988935214358341, -45, ["rydberg"]),
    ("US_therm", 1054804, 2, ["US_therm"]),
    ("Wh", 3600, 0, ["watt_hour", "Wh", "watthour"]),
    ("atm_l", 101325, -3, ["atmosphere_liter", "atm_l"]),
    ("cal", 4184, -3, ["calorie", "cal", "thermochemical_calorie", "cal_th"]),
    ("cal_15", 41855, -4, ["fifteen_degree_calorie"]),
    ("cal_it", 41868, -4, ["international_calorie", "cal_it", "international_steam_table_calorie"]),
    ("eV", 1602176634, -28, ["electron_volt", "eV", "electronvolt"]),
    ("erg", 1, -7, ["erg"]),
    ("ft_lb", 1355817948331400399999999999864418205166859960, -45, ["ft_lb", "footpound"]),
    ("ft_lb", 1355817948331400400000000000, -27, ["foot_pound"]),
    ("kWh", 3600, 3, ["kWh"]),
    ("kcal", 4184, 0, ["kcal"]),
    ("quad", 1055056, 12, ["quadrillion_Btu", "quad"]),
    ("tTNT", 4184, 6, ["ton_TNT", "tTNT"]),
    ("thm", 1055056, 2, ["therm", "thm", "EC_therm"]),
    ("toe", 41868, 6, ["tonne_of_oil_equivalent", "toe"])] ++
  block ⟨2, 1, -3, 0, 0, 0, 0, 0⟩ [
    ("MW", 1, 6, ["megawatt"]),
    ("VA", 1, 0, ["volt_ampere", "VA"]),
    ("W", 1, 0, ["watt", "W"]),
    ("boiler_horsepower", 9810555444444444444444444445, -24, ["boiler_horsepower"]),
    ("cooling_tower_ton", 4396066666666666666666666667, -24, ["cooling_tower_ton"]),
    ("electrical_horsepower", 746, 0, ["electrical_horsepower"]),
    ("hp", 745699871582270219999999999925430012841772978000, -45,
      ["hp", "UK_horsepower", "hydraulic_horsepower"]),
    ("hp", 7456998715822702200000000000, -25, ["horsepower"]),
    ("kW", 1, 3, ["kW"]),
    ("metric_horsepower", 73549875, -5, ["metric_horsepower"]),
    ("refrigeration_ton", 35168533333333333333333333333333333333333333333334, -46,
      ["ton_of_refrigeration"]),
    ("refrigeration_ton", 3516853333333333333333333334, -24, ["refrigeration_ton"]),
    ("slpm", 1688750000000000000000000000, -27, ["standard_liter_per_minute"]),
    ("slpm", 16887500000000000000000000000000000000000000000000, -49, ["slpm", "slm"])] ++
  block ⟨3, -1, -2, 0, 0, 0, 0, 0⟩ [
    ("newtonian_constant_of_gravitation", 667430, -16,
      ["newtonian_constant_of_gravitation", "gravitational_constant"])] ++
  block ⟨4, 1, -3, 0, 0, 0, 0, 0⟩ [
    ("c_1", 3741771852192758011367155556, -43, ["first_radiation_constant"])]

end CalcSheet.Catalogue
