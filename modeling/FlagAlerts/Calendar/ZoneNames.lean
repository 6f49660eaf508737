import FlagAlerts.Calendar.Daylight

/-!
# The names of time zones

Every name that stands for a time zone. Of most zones the offsets are known for the years from 2026
on, of two for all years, and of two more since they took up their daylight saving rules.
-/

namespace FlagAlerts.Calendar

/-- From the second Sunday of March to the first of November. -/
def american : Daylight := ⟨⟨3, 2, 0, 7200⟩, ⟨11, 1, 0, 7200⟩, 3600⟩

/-- From the last Sunday of March to the last of October. -/
def centralEuropean : Daylight := ⟨⟨3, 5, 0, 7200⟩, ⟨10, 5, 0, 10800⟩, 3600⟩

/-- The zones by standard offset and daylight saving. -/
def zoneTable : List (Int × Option Daylight × List String) := [
  (-43200, none, ["Etc/GMT+12"]),
  (-39600, none, ["Etc/GMT+11", "Pacific/Midway", "Pacific/Niue", "Pacific/Pago_Pago",
    "Pacific/Samoa", "US/Samoa"]),
  (-36000, some american, ["America/Adak", "America/Atka", "US/Aleutian"]),
  (-36000, none, ["Etc/GMT+10", "HST", "Pacific/Honolulu", "Pacific/Johnston",
    "Pacific/Rarotonga", "Pacific/Tahiti", "US/Hawaii"]),
  (-34200, none, ["Pacific/Marquesas"]),
  (-32400, some american, ["America/Anchorage", "America/Juneau", "America/Metlakatla",
    "America/Nome", "America/Sitka", "America/Yakutat", "US/Alaska"]),
  (-32400, none, ["Etc/GMT+9", "Pacific/Gambier"]),
  (-28800, some american, ["America/Ensenada", "America/Los_Angeles", "America/Santa_Isabel",
    "America/Tijuana", "America/Vancouver", "Canada/Pacific", "Mexico/BajaNorte", "PST8PDT",
    "US/Pacific"]),
  (-28800, none, ["Etc/GMT+8", "Pacific/Pitcairn"]),
  (-25200, some american, ["America/Boise", "America/Cambridge_Bay", "America/Ciudad_Juarez",
    "America/Denver", "America/Edmonton", "America/Inuvik", "America/Shiprock",
    "America/Yellowknife", "Canada/Mountain", "MST7MDT", "Navajo", "US/Mountain"]),
  (-25200, none, ["America/Creston", "America/Dawson", "America/Dawson_Creek",
    "America/Fort_Nelson", "America/Hermosillo", "America/Mazatlan", "America/Phoenix",
    "America/Whitehorse", "Canada/Yukon", "Etc/GMT+7", "MST", "Mexico/BajaSur", "US/Arizona"]),
  (-21600, some american, ["America/Chicago", "America/Indiana/Knox",
    "America/Indiana/Tell_City", "America/Knox_IN", "America/Matamoros", "America/Menominee",
    "America/North_Dakota/Beulah", "America/North_Dakota/Center",
    "America/North_Dakota/New_Salem", "America/Ojinaga", "America/Rainy_River",
    "America/Rankin_Inlet", "America/Resolute", "America/Winnipeg", "CST6CDT", "Canada/Central",
    "US/Central", "US/Indiana-Starke"]),
  (-21600, some ⟨⟨9, 1, 6, 79200⟩, ⟨4, 1, 6, 79200⟩, 3600⟩, ["Chile/EasterIsland",
    "Pacific/Easter"]),
  (-21600, none, ["America/Bahia_Banderas", "America/Belize", "America/Chihuahua",
    "America/Costa_Rica", "America/El_Salvador", "America/Guatemala", "America/Managua",
    "America/Merida", "America/Mexico_City", "America/Monterrey", "America/Regina",
    "America/Swift_Current", "America/Tegucigalpa", "Canada/Saskatchewan", "Etc/GMT+6",
    "Mexico/General", "Pacific/Galapagos"]),
  (-18000, some ⟨⟨3, 2, 0, 0⟩, ⟨11, 1, 0, 3600⟩, 3600⟩, ["America/Havana", "Cuba"]),
  (-18000, some american, ["America/Detroit", "America/Fort_Wayne", "America/Grand_Turk",
    "America/Indiana/Indianapolis", "America/Indiana/Marengo", "America/Indiana/Petersburg",
    "America/Indiana/Vevay", "America/Indiana/Vincennes", "America/Indiana/Winamac",
    "America/Indianapolis", "America/Iqaluit", "America/Kentucky/Louisville",
    "America/Kentucky/Monticello", "America/Louisville", "America/Montreal", "America/Nassau",
    "America/Nipigon", "America/Pangnirtung", "America/Port-au-Prince", "America/Thunder_Bay",
    "America/Toronto", "Canada/Eastern", "EST5EDT", "US/East-Indiana", "US/Michigan"]),
  (-18000, none, ["America/Atikokan", "America/Bogota", "America/Cancun", "America/Cayman",
    "America/Coral_Harbour", "America/Eirunepe", "America/Guayaquil", "America/Jamaica",
    "America/Lima", "America/Panama", "America/Porto_Acre", "America/Rio_Branco", "Brazil/Acre",
    "EST", "Etc/GMT+5", "Jamaica"]),
  (-14400, some american, ["America/Glace_Bay", "America/Goose_Bay", "America/Halifax",
    "America/Moncton", "America/Thule", "Atlantic/Bermuda", "Canada/Atlantic"]),
  (-14400, some ⟨⟨9, 1, 6, 86400⟩, ⟨4, 1, 6, 86400⟩, 3600⟩, ["America/Santiago",
    "Chile/Continental"]),
  (-14400, none, ["America/Anguilla", "America/Antigua", "America/Aruba", "America/Barbados",
    "America/Blanc-Sablon", "America/Boa_Vista", "America/Campo_Grande", "America/Caracas",
    "America/Cuiaba", "America/Curacao", "America/Dominica", "America/Grenada",
    "America/Guadeloupe", "America/Guyana", "America/Kralendijk", "America/La_Paz",
    "America/Lower_Princes", "America/Manaus", "America/Marigot", "America/Martinique",
    "America/Montserrat", "America/Port_of_Spain", "America/Porto_Velho", "America/Puerto_Rico",
    "America/Santo_Domingo", "America/St_Barthelemy", "America/St_Kitts", "America/St_Lucia",
    "America/St_Thomas", "America/St_Vincent", "America/Tortola", "America/Virgin",
    "Brazil/West", "Etc/GMT+4"]),
  (-12600, some american, ["America/St_Johns", "Canada/Newfoundland"]),
  (-10800, some american, ["America/Miquelon"]),
  (-10800, none, ["America/Araguaina", "America/Argentina/Buenos_Aires",
    "America/Argentina/Catamarca", "America/Argentina/ComodRivadavia",
    "America/Argentina/Cordoba", "America/Argentina/Jujuy", "America/Argentina/La_Rioja",
    "America/Argentina/Mendoza", "America/Argentina/Rio_Gallegos", "America/Argentina/Salta",
    "America/Argentina/San_Juan", "America/Argentina/San_Luis", "America/Argentina/Tucuman",
    "America/Argentina/Ushuaia", "America/Asuncion", "America/Bahia", "America/Belem",
    "America/Buenos_Aires", "America/Catamarca", "America/Cayenne", "America/Cordoba",
    "America/Coyhaique", "America/Fortaleza", "America/Jujuy", "America/Maceio",
    "America/Mendoza", "America/Montevideo", "America/Paramaribo", "America/Punta_Arenas",
    "America/Recife", "America/Rosario", "America/Santarem", "America/Sao_Paulo",
    "Antarctica/Palmer", "Antarctica/Rothera", "Atlantic/Stanley", "Brazil/East", "Etc/GMT+3"]),
  (-7200, some ⟨⟨3, 5, 0, -3600⟩, ⟨10, 5, 0, 0⟩, 3600⟩, ["America/Godthab", "America/Nuuk",
    "America/Scoresbysund"]),
  (-7200, none, ["America/Noronha", "Atlantic/South_Georgia", "Brazil/DeNoronha", "Etc/GMT+2"]),
  (-3600, some ⟨⟨3, 5, 0, 0⟩, ⟨10, 5, 0, 3600⟩, 3600⟩, ["Atlantic/Azores"]),
  (-3600, none, ["Atlantic/Cape_Verde", "Etc/GMT+1"]),
  (0, some ⟨⟨3, 5, 0, 3600⟩, ⟨10, 5, 0, 10800⟩, 7200⟩, ["Antarctica/Troll"]),
  (0, some ⟨⟨3, 5, 0, 3600⟩, ⟨10, 5, 0, 7200⟩, 3600⟩, ["Atlantic/Canary", "Atlantic/Faeroe",
    "Atlantic/Faroe", "Atlantic/Madeira", "Eire", "Europe/Belfast", "Europe/Dublin",
    "Europe/Guernsey", "Europe/Isle_of_Man", "Europe/Jersey", "Europe/Lisbon", "Europe/London",
    "GB", "GB-Eire", "Portugal", "WET"]),
  (0, none, ["Africa/Abidjan", "Africa/Accra", "Africa/Bamako", "Africa/Banjul", "Africa/Bissau",
    "Africa/Conakry", "Africa/Dakar", "Africa/Freetown", "Africa/Lome", "Africa/Monrovia",
    "Africa/Nouakchott", "Africa/Ouagadougou", "Africa/Sao_Tome", "Africa/Timbuktu",
    "America/Danmarkshavn", "Atlantic/Reykjavik", "Atlantic/St_Helena", "Etc/GMT", "Etc/GMT+0",
    "Etc/GMT-0", "Etc/GMT0", "Etc/Greenwich", "Etc/UCT", "Etc/UTC", "Etc/Universal", "Etc/Zulu",
    "GMT", "GMT+0", "GMT-0", "GMT0", "Greenwich", "Iceland", "UCT", "UTC", "Universal", "Zulu"]),
  (3600, some centralEuropean, ["Africa/Ceuta", "Arctic/Longyearbyen", "Atlantic/Jan_Mayen",
    "CET", "Europe/Amsterdam", "Europe/Andorra", "Europe/Belgrade", "Europe/Berlin",
    "Europe/Bratislava", "Europe/Brussels", "Europe/Budapest", "Europe/Busingen",
    "Europe/Copenhagen", "Europe/Gibraltar", "Europe/Ljubljana", "Europe/Luxembourg",
    "Europe/Madrid", "Europe/Malta", "Europe/Monaco", "Europe/Oslo", "Europe/Podgorica",
    "Europe/Prague", "Europe/Rome", "Europe/San_Marino", "Europe/Sarajevo", "Europe/Skopje",
    "Europe/Stockholm", "Europe/Tirane", "Europe/Vaduz", "Europe/Vatican", "Europe/Vienna",
    "Europe/Warsaw", "Europe/Zagreb", "Europe/Zurich", "MET", "Poland"]),
  (3600, none, ["Africa/Algiers", "Africa/Bangui", "Africa/Brazzaville", "Africa/Douala",
    "Africa/Kinshasa", "Africa/Lagos", "Africa/Libreville", "Africa/Luanda", "Africa/Malabo",
    "Africa/Ndjamena", "Africa/Niamey", "Africa/Porto-Novo", "Africa/Tunis", "Etc/GMT-1"]),
  (7200, some ⟨⟨3, 4, 4, 93600⟩, ⟨10, 5, 0, 7200⟩, 3600⟩, ["Asia/Jerusalem", "Asia/Tel_Aviv",
    "Israel"]),
  (7200, some ⟨⟨3, 5, 0, 0⟩, ⟨10, 5, 0, 0⟩, 3600⟩, ["Asia/Beirut"]),
  (7200, some centralEuropean, ["Europe/Chisinau", "Europe/Tiraspol"]),
  (7200, some ⟨⟨3, 5, 0, 10800⟩, ⟨10, 5, 0, 14400⟩, 3600⟩, ["Asia/Famagusta", "Asia/Nicosia",
    "EET", "Europe/Athens", "Europe/Bucharest", "Europe/Helsinki", "Europe/Kiev", "Europe/Kyiv",
    "Europe/Mariehamn", "Europe/Nicosia", "Europe/Riga", "Europe/Sofia", "Europe/Tallinn",
    "Europe/Uzhgorod", "Europe/Vilnius", "Europe/Zaporozhye"]),
  (7200, some ⟨⟨4, 5, 5, 0⟩, ⟨10, 5, 4, 86400⟩, 3600⟩, ["Africa/Cairo", "Egypt"]),
  (7200, none, ["Africa/Blantyre", "Africa/Bujumbura", "Africa/Gaborone", "Africa/Harare",
    "Africa/Johannesburg", "Africa/Juba", "Africa/Khartoum", "Africa/Kigali",
    "Africa/Lubumbashi", "Africa/Lusaka", "Africa/Maputo", "Africa/Maseru", "Africa/Mbabane",
    "Africa/Tripoli", "Africa/Windhoek", "Etc/GMT-2", "Europe/Kaliningrad", "Libya"]),
  (10800, none, ["Africa/Addis_Ababa", "Africa/Asmara", "Africa/Asmera", "Africa/Dar_es_Salaam",
    "Africa/Djibouti", "Africa/Kampala", "Africa/Mogadishu", "Africa/Nairobi",
    "Antarctica/Syowa", "Asia/Aden", "Asia/Amman", "Asia/Baghdad", "Asia/Bahrain",
    "Asia/Damascus", "Asia/Istanbul", "Asia/Kuwait", "Asia/Qatar", "Asia/Riyadh", "Etc/GMT-3",
    "Europe/Istanbul", "Europe/Kirov", "Europe/Minsk", "Europe/Moscow", "Europe/Simferopol",
    "Europe/Volgograd", "Indian/Antananarivo", "Indian/Comoro", "Indian/Mayotte", "Turkey",
    "W-SU"]),
  (12600, none, ["Asia/Tehran", "Iran"]),
  (14400, none, ["Asia/Baku", "Asia/Dubai", "Asia/Muscat", "Asia/Tbilisi", "Asia/Yerevan",
    "Etc/GMT-4", "Europe/Astrakhan", "Europe/Samara", "Europe/Saratov", "Europe/Ulyanovsk",
    "Indian/Mahe", "Indian/Mauritius", "Indian/Reunion"]),
  (16200, none, ["Asia/Kabul"]),
  (18000, none, ["Antarctica/Mawson", "Antarctica/Vostok", "Asia/Almaty", "Asia/Aqtau",
    "Asia/Aqtobe", "Asia/Ashgabat", "Asia/Ashkhabad", "Asia/Atyrau", "Asia/Dushanbe",
    "Asia/Karachi", "Asia/Oral", "Asia/Qostanay", "Asia/Qyzylorda", "Asia/Samarkand",
    "Asia/Tashkent", "Asia/Yekaterinburg", "Etc/GMT-5", "Indian/Kerguelen", "Indian/Maldives"]),
  (19800, none, ["Asia/Colombo"]),
  (20700, none, ["Asia/Kathmandu", "Asia/Katmandu"]),
  (21600, none, ["Asia/Bishkek", "Asia/Dacca", "Asia/Dhaka", "Asia/Kashgar", "Asia/Omsk",
    "Asia/Thimbu", "Asia/Thimphu", "Asia/Urumqi", "Etc/GMT-6", "Indian/Chagos"]),
  (23400, none, ["Asia/Rangoon", "Asia/Yangon", "Indian/Cocos"]),
  (25200, none, ["Antarctica/Davis", "Asia/Bangkok", "Asia/Barnaul", "Asia/Ho_Chi_Minh",
    "Asia/Hovd", "Asia/Jakarta", "Asia/Krasnoyarsk", "Asia/Novokuznetsk", "Asia/Novosibirsk",
    "Asia/Phnom_Penh", "Asia/Pontianak", "Asia/Saigon", "Asia/Tomsk", "Asia/Vientiane",
    "Etc/GMT-7", "Indian/Christmas"]),
  (28800, none, ["Antarctica/Casey", "Asia/Brunei", "Asia/Choibalsan", "Asia/Chongqing",
    "Asia/Chungking", "Asia/Harbin", "Asia/Hong_Kong", "Asia/Irkutsk", "Asia/Kuala_Lumpur",
    "Asia/Kuching", "Asia/Macao", "Asia/Macau", "Asia/Makassar", "Asia/Manila", "Asia/Shanghai",
    "Asia/Singapore", "Asia/Taipei", "Asia/Ujung_Pandang", "Asia/Ulaanbaatar", "Asia/Ulan_Bator",
    "Australia/Perth", "Australia/West", "Etc/GMT-8", "Hongkong", "PRC", "ROC", "Singapore"]),
  (31500, none, ["Australia/Eucla"]),
  (32400, none, ["Asia/Chita", "Asia/Dili", "Asia/Jayapura", "Asia/Khandyga", "Asia/Pyongyang",
    "Asia/Seoul", "Asia/Yakutsk", "Etc/GMT-9", "Pacific/Palau", "ROK"]),
  (34200, some ⟨⟨10, 1, 0, 7200⟩, ⟨4, 1, 0, 10800⟩, 3600⟩, ["Australia/Adelaide",
    "Australia/Broken_Hill", "Australia/South", "Australia/Yancowinna"]),
  (34200, none, ["Australia/Darwin", "Australia/North"]),
  (36000, some ⟨⟨10, 1, 0, 7200⟩, ⟨4, 1, 0, 10800⟩, 3600⟩, ["Antarctica/Macquarie",
    "Australia/ACT", "Australia/Canberra", "Australia/Currie", "Australia/Hobart",
    "Australia/Melbourne", "Australia/NSW", "Australia/Sydney", "Australia/Tasmania",
    "Australia/Victoria"]),
  (36000, none, ["Antarctica/DumontDUrville", "Asia/Ust-Nera", "Asia/Vladivostok",
    "Australia/Brisbane", "Australia/Lindeman", "Australia/Queensland", "Etc/GMT-10",
    "Pacific/Chuuk", "Pacific/Guam", "Pacific/Port_Moresby", "Pacific/Saipan", "Pacific/Truk",
    "Pacific/Yap"]),
  (37800, some ⟨⟨10, 1, 0, 7200⟩, ⟨4, 1, 0, 7200⟩, 1800⟩, ["Australia/LHI",
    "Australia/Lord_Howe"]),
  (39600, some ⟨⟨10, 1, 0, 7200⟩, ⟨4, 1, 0, 10800⟩, 3600⟩, ["Pacific/Norfolk"]),
  (39600, none, ["Asia/Magadan", "Asia/Sakhalin", "Asia/Srednekolymsk", "Etc/GMT-11",
    "Pacific/Bougainville", "Pacific/Efate", "Pacific/Guadalcanal", "Pacific/Kosrae",
    "Pacific/Noumea", "Pacific/Pohnpei", "Pacific/Ponape"]),
  (43200, some ⟨⟨9, 5, 0, 7200⟩, ⟨4, 1, 0, 10800⟩, 3600⟩, ["Antarctica/McMurdo",
    "Antarctica/South_Pole", "NZ", "Pacific/Auckland"]),
  (43200, none, ["Asia/Anadyr", "Asia/Kamchatka", "Etc/GMT-12", "Kwajalein", "Pacific/Fiji",
    "Pacific/Funafuti", "Pacific/Kwajalein", "Pacific/Majuro", "Pacific/Nauru", "Pacific/Tarawa",
    "Pacific/Wake", "Pacific/Wallis"]),
  (45900, some ⟨⟨9, 5, 0, 9900⟩, ⟨4, 1, 0, 13500⟩, 3600⟩, ["NZ-CHAT", "Pacific/Chatham"]),
  (46800, none, ["Etc/GMT-13", "Pacific/Apia", "Pacific/Enderbury", "Pacific/Fakaofo",
    "Pacific/Kanton", "Pacific/Tongatapu"]),
  (50400, none, ["Etc/GMT-14", "Pacific/Kiritimati"])]

/-- The daylight saving of New York. -/
def newYork : List (Nat × Nat × Daylight) :=
  let lastOfOctober : Turn := ⟨10, 5, 0, 7200⟩
  [(1967, 1973, ⟨⟨4, 5, 0, 7200⟩, lastOfOctober, 3600⟩),
    (1974, 1974, ⟨⟨1, 1, 0, 7200⟩, lastOfOctober, 3600⟩),
    (1975, 1975, ⟨⟨2, 5, 0, 7200⟩, lastOfOctober, 3600⟩),
    (1976, 1986, ⟨⟨4, 5, 0, 7200⟩, lastOfOctober, 3600⟩),
    (1987, 2006, ⟨⟨4, 1, 0, 7200⟩, lastOfOctober, 3600⟩),
    (2007, lastKnownYear, american)]

/-- The daylight saving of Paris. -/
def paris : List (Nat × Nat × Daylight) :=
  let firstOfApril : Turn := ⟨4, 1, 0, 7200⟩
  let lastOfSeptember : Turn := ⟨9, 5, 0, 10800⟩
  [(1976, 1976, ⟨⟨3, 5, 0, 3600⟩, ⟨9, 5, 0, 3600⟩, 3600⟩),
    (1977, 1977, ⟨firstOfApril, lastOfSeptember, 3600⟩),
    (1978, 1978, ⟨firstOfApril, ⟨10, 1, 0, 10800⟩, 3600⟩),
    (1979, 1980, ⟨firstOfApril, lastOfSeptember, 3600⟩),
    (1981, 1995, ⟨⟨3, 5, 0, 7200⟩, lastOfSeptember, 3600⟩),
    (1996, lastKnownYear, centralEuropean)]

/-- The changes of the Japanese offset, mean time of the place at first. -/
def japanese : List OffsetChange := [
  ⟨-2587712400, 32400⟩, ⟨-683802000, 36000⟩, ⟨-672310800, 32400⟩, ⟨-654771600, 36000⟩,
  ⟨-640861200, 32400⟩, ⟨-620298000, 36000⟩, ⟨-609411600, 32400⟩, ⟨-588848400, 36000⟩,
  ⟨-577962000, 32400⟩]

/-- The changes of the Indian offset, mean times of several places at first. -/
def indian : List OffsetChange := [
  ⟨-3645237208, 21200⟩, ⟨-3155694800, 19270⟩, ⟨-2019705670, 19800⟩, ⟨-891581400, 23400⟩,
  ⟨-872058600, 19800⟩, ⟨-862637400, 23400⟩, ⟨-764145000, 19800⟩]

/-- When Moroccan clocks are set back for a month of fasting, and forward again. -/
def moroccan : String := "
  491978 492818 500546 501386 508946 509954 517514 518354 525914 526922 534482 535322 543050
  543890 551450 552458 560018 560858 568418 569426 576986 577994 585554 586394 593954 594962
  602522 603362 611090 611930 619490 620498 628058 628898 636458 637466 645026 646034 653594
  654434 661994 663002 670562 671402 679130 679970 687530 688538 696098 696938 704498 705506
  713066 714074 721634 722474 730034 731042 738602 739442 747170 748010 755570 756578 764138
  764978 772538 773546 781106 782114 789674 790514 798074 799082 806642 807482 815210 816050
  823610 824618 832178 833018 840578 841586 849146 850154 857714 858554 866114 867122 874682
  875522 883250 884090 891650 892658 900218 901058 908618 909626 917186 918194 925754 926594
  934154 935162 942722 943562 951290 952130 959690 960698 968258 969098 976658 977666 985226
  986066 993794 994634 1002194 1003202 1010762 1011602 1019330 1020170 1027730 1028738"

/-- When Palestinian clocks are set forward and back; a month of fasting in summer is left out. -/
def palestinian : String := "
  492960 497999 501696 506903 510432 515639 519168 524375 528072 533111 536808 541847 545544
  550751 554280 559487 563016 568223 571752 576959 580656 585527 589392 594095 598128 602495
  606864 611063 615600 619463 620640 620807 624504 628031 629040 629543 633240 636599 637608
  638279 641976 644999 646176 647015 650712 653567 654576 655919 659448 662135 663144 664655
  668184 670535 671712 673391 677088 679103 680112 682127 685824 687503 688680 690863 694560
  696071 697080 699767 703296 704639 705648 708503 712032 713039 714216 717239 720936 721607
  722616 725975 729672 730007 731184 734711 738408 738575 739752 743447 748152 752351 756720
  761087 765120 769823 773688 778559 782256 787295 790992 796199 799728 804935 808464 813671
  817200 822407 826104 831143 834840 839879 843576 848783 852312 857519 861048 866087 869952
  874655 878688 883223 887424 891623 896160 900191 901200 901367 904896 908759 909768 910103
  913632 917159 918336 918839 922536 925727 926736 927575 931272 934127 935304 936311 940008
  942695 943872 945215 948744 951263 952272 953951 957480 959663 960840 962687 966384 968231
  969240 971423 975120 976799 977808 980159 983856 985199 986376 988895 992592 993767 994776
  997799 1001328 1002167 1003344 1006535 1010064 1010735 1011912 1015271 1018968 1019303 1020312
  1024007 1027704 1032743 1036440 1041647 1045176 1050383 1053912 1059119 1062648 1067855 1071552
  1076591 1080288 1085327 1089024 1094231 1097760 1102967 1106496 1111703 1115400 1120439 1124136
  1129175 1132872 1137911"

/-- The zone of a name whose offset follows no rule of the table. -/
def Zone.special? (name : String) : Option Zone :=
  if ["America/New_York", "US/Eastern"].contains name then some (.inSeasons name (-18000) newYork)
  else if name == "Europe/Paris" then some (.inSeasons name 3600 paris)
  else if ["Asia/Tokyo", "Japan"].contains name then some ⟨name, 33539, japanese⟩
  else if ["Asia/Calcutta", "Asia/Kolkata"].contains name then some ⟨name, 21208, indian⟩
  else if ["Africa/Casablanca", "Africa/El_Aaiun"].contains name then
    some (.alternating name 3600 0 moroccan)
  else if ["Asia/Gaza", "Asia/Hebron"].contains name then
    some (.alternating name 7200 10800 palestinian)
  else none

/-- The zone of a name; the case of the letters matters. -/
def Zone.ofName? (name : String) : Option Zone :=
  (Zone.special? name).or do
    let (standard, daylight, _) ← zoneTable.find? (·.2.2.contains name)
    return daylight.elim ⟨name, standard, []⟩ (Zone.yearly name standard)

end FlagAlerts.Calendar
